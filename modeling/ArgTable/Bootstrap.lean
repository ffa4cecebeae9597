-- The step that starts a build. It decides which phase to run, `begin` or `end`, and hands
-- everything else on to that phase as it stands, so tokens it does not know are fine here.
import ArgTable.Property
import ArgTable.Verdict

namespace ArgTable

/-! ## Phases -/

/-- The two phases of an analysis, before and after the build. -/
inductive Phase where
  | preProcessing
  | postProcessing
  deriving DecidableEq, Repr

def Phase.name : Phase → String
  | .preProcessing => "pre-processing"
  | .postProcessing => "post-processing"

theorem Phase.name_injective : Function.Injective Phase.name := by
  intro phase other h
  cases phase <;> cases other <;> first | rfl | exact absurd h (by decide)

/-- The name as the log writes it. -/
def Phase.title : Phase → String
  | .preProcessing => "PreProcessing"
  | .postProcessing => "PostProcessing"

namespace Bootstrap

/-- The arguments of this step, in matching order. -/
def table : Table BuildArgument where
  argument := BuildArgument.argument
  order := [.beginVerb, .endVerb, .settingsFile, .property]
  distinct := by decide
  lenient := true

/-- What was decided, and what is handed on. -/
structure Settings where
  phase : Phase
  /-- The tokens without the phase verbs. -/
  childArgs : List String
  settingsFile : Option String
  properties : List Property
  deriving DecidableEq, Repr

/-! ## The phase -/

/-- The phase that the verbs ask for, and what there is to say about it. A call without a
verb is older than the verbs: without any tokens it means the phase after the build, and
with tokens the one before. -/
def choosePhase (tokenCount : Nat) (instances : List (Instance BuildArgument)) :
    Option Phase × List Notice :=
  match Instance.supplied .beginVerb instances, Instance.supplied .endVerb instances with
  | true, true => (none, [.bothPhases])
  | true, false => (some .preProcessing, [])
  | false, true => (some .postProcessing, [])
  | false, false =>
    (some (if tokenCount = 0 then .postProcessing else .preProcessing), [.neitherPhase])

/-- The words that choose a phase. They mean nothing to the phase itself. -/
def verbs : List String :=
  [BuildArgument.beginVerb, .endVerb].flatMap fun name => name.argument.form.literals

/-- The tokens without the phase verbs. -/
def withoutVerbs (tokens : List String) : List String :=
  tokens.filter (· ∉ verbs)

/-- Some token asks for help. -/
def asksForHelp (tokens : List String) : Bool :=
  tokens.any fun token => token = "/h" || token = "/?"

/-! ## The step -/

/-- What the step makes of the tokens and of what a table read in them. Properties and phase are
judged on the instances, of which there are none when the parse failed. -/
def judge (tokens : List String) (outcome : Outcome BuildArgument) : Verdict Settings :=
  let (properties, propertyNotices) := Property.extract .property outcome.instances
  let (phase, phaseNotices) := choosePhase tokens.length outcome.instances
  let notices := outcome.notices ++ propertyNotices ++ phaseNotices
  match properties, phase, outcome.success with
  | some properties, some phase, true =>
    { accepted := some {
        phase
        childArgs := withoutVerbs tokens
        settingsFile := Instance.value? .settingsFile outcome.instances
        properties }
      instances := outcome.instances
      notices
      trace := outcome.trace ++ [.debug s!"Selected analysis phase: {phase.title}"] }
  | _, _, _ => { accepted := none, instances := [], notices, trace := outcome.trace }

/-- Reads the tokens. -/
def process (tokens : List String) : Verdict Settings :=
  judge tokens (table.parse tokens)

end Bootstrap

end ArgTable
