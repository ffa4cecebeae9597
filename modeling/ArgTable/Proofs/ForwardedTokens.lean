-- Tokens on the command line. The first word that is no option opens the tokens, and so do two
-- hyphens alone. From there on every word is a token as it stands, and no word changes the
-- options or the outcome any more.
import ArgTable.CommandLine
import ArgTable.Proofs.Lists
import Mathlib.Data.List.Basic

namespace ArgTable.CommandLine

/-! ## One word -/

theorem Word.ofText_eq_separator_iff (text : String) : ofText text = .separator ↔ text = "--" := by
  constructor
  · intro h
    unfold ofText at h
    split at h
    · next htext => exact String.toList_inj.mp htext
    · unfold ofLong at h
      split at h <;> cases h
    · split at h <;> cases h
    · cases h
  · rintro rfl
    rfl

namespace State

/-- Options may still follow. -/
def IsReading : State → Prop
  | reading _ _ => True
  | closed _ _ => False

theorem isReading_of_obey {draft : Draft} {request : Request} {next : State}
    (h : obey draft request = .ok next) : next.IsReading := by
  obtain ⟨raised, -, h⟩ := bind_eq_ok_iff.mp h
  split at h
  · cases h
    trivial
  · obtain ⟨assigned, -, rfl⟩ := map_eq_ok_iff.mp h
    trivial
  · cases h
    trivial

theorem cases_of_take {draft : Draft} {text : String} {pending : Pending} {next : State}
    (h : take draft text pending = .ok next) :
    next.IsReading ∨ ∃ settled, next = .closed settled [text] := by
  unfold take at h
  split at h
  · cases h
    exact Or.inl trivial
  · obtain ⟨settled, -, rfl⟩ := map_eq_ok_iff.mp h
    exact Or.inr ⟨settled, rfl⟩

/-- After a word options may still follow, or the word opened the tokens, as the first of them or as
the separator, or they were open and it is one more. -/
theorem cases_of_step {state next : State} {text : String} (h : state.step text = .ok next) :
    (next.IsReading ∧ text ≠ "--") ∨
      (∃ draft, next = .closed draft [] ∧ text = "--") ∨
      ∃ draft tokens, next = .closed draft (tokens ++ [text]) := by
  rcases state with ⟨draft, pending⟩ | ⟨draft, tokens⟩
  · have hseparator := Word.ofText_eq_separator_iff text
    rw [step] at h
    cases hword : Word.ofText text with
    | request request =>
      rw [hword] at h hseparator
      obtain ⟨settled, -, hobey⟩ := bind_eq_ok_iff.mp h
      exact Or.inl ⟨isReading_of_obey hobey, fun heq => by cases hseparator.mpr heq⟩
    | excess =>
      rw [hword] at h
      cases h
    | separator =>
      rw [hword] at h
      obtain ⟨settled, -, rfl⟩ := map_eq_ok_iff.mp h
      exact Or.inr (Or.inl ⟨settled, rfl, hseparator.mp hword⟩)
    | token =>
      rw [hword] at h hseparator
      rcases cases_of_take h with hreading | ⟨settled, rfl⟩
      · exact Or.inl ⟨hreading, fun heq => by cases hseparator.mpr heq⟩
      · exact Or.inr (Or.inr ⟨settled, [], rfl⟩)
  · cases h
    exact Or.inr (Or.inr ⟨draft, tokens, rfl⟩)

/-! ## Runs of words -/

theorem steps_append (state : State) (words more : List String) :
    state.steps (words ++ more) = (state.steps words).bind (·.steps more) := by
  induction words generalizing state with
  | nil => rfl
  | cons word words ih =>
    rw [List.cons_append, steps, steps]
    cases state.step word with
    | error stop => rfl
    | ok next => exact ih next

theorem steps_concat_eq_ok_iff {state next : State} {words : List String} {last : String} :
    state.steps (words ++ [last]) = .ok next ↔
      ∃ middle, state.steps words = .ok middle ∧ middle.step last = .ok next := by
  rw [steps_append, bind_eq_ok_iff]
  apply exists_congr
  intro middle
  rw [and_congr_right_iff]
  intro _
  unfold steps
  rw [bind_eq_ok_iff]
  simp [steps]

theorem steps_closed (draft : Draft) (tokens words : List String) :
    (closed draft tokens).steps words = .ok (.closed draft (tokens ++ words)) := by
  induction words generalizing tokens with
  | nil => rw [List.append_nil]; rfl
  | cons word words ih =>
    rw [steps, step]
    exact (ih _).trans (by rw [List.append_assoc]; rfl)

end State

/-! ## The first part of the words -/

/-- Where reading starts. -/
def start : State := .reading {} .nothing

theorem read_eq_ok_iff (words : List String) (options : Options) :
    read words = .ok options ↔
      ∃ state, start.steps words = .ok state ∧ state.finish = .ok options :=
  bind_eq_ok_iff

/-- The tokens are open, but there are none yet, only behind the separator. -/
theorem getLast?_of_closed_nil {words : List String} {draft : Draft}
    (h : start.steps words = .ok (.closed draft [])) : words.getLast? = some "--" := by
  rcases List.eq_nil_or_concat' words with rfl | ⟨words, last, rfl⟩
  · cases h
  · rw [List.getLast?_concat]
    obtain ⟨middle, -, hstep⟩ := State.steps_concat_eq_ok_iff.mp h
    rcases State.cases_of_step hstep with ⟨hreading, -⟩ | ⟨_, -, rfl⟩ | ⟨_, tokens, hclosed⟩
    · exact hreading.elim
    · rfl
    · have hnil := (State.closed.inj hclosed).2
      simp at hnil

theorem not_isReading_of_getLast? {words : List String} {state : State}
    (h : start.steps words = .ok state) (hlast : words.getLast? = some "--") :
    ¬ state.IsReading := by
  obtain ⟨earlier, rfl⟩ := List.getLast?_eq_some_iff.mp hlast
  obtain ⟨middle, -, hstep⟩ := State.steps_concat_eq_ok_iff.mp h
  rcases State.cases_of_step hstep with ⟨-, hne⟩ | ⟨_, rfl, -⟩ | ⟨_, _, rfl⟩
  · exact absurd rfl hne
  · exact id
  · exact id

theorem read_append_of_closed {words : List String} {draft : Draft} {tokens : List String}
    (h : start.steps words = .ok (.closed draft tokens)) (rest : List String) :
    read (words ++ rest) = .ok (draft.finish (tokens ++ rest)) := by
  rw [read_eq_ok_iff]
  refine ⟨.closed draft (tokens ++ rest), ?_, rfl⟩
  rw [State.steps_append, h]
  exact State.steps_closed draft tokens rest

theorem tokens_eq_nil_of_isReading {state : State} {options : Options} (h : state.IsReading)
    (hfinish : state.finish = .ok options) : options.tokens = [] := by
  rcases state with ⟨draft, pending⟩ | ⟨draft, tokens⟩
  · obtain ⟨settled, -, rfl⟩ := map_eq_ok_iff.mp hfinish
    rfl
  · exact h.elim

theorem read_append_of_not_isReading {words : List String} {state : State} {options : Options}
    (hsteps : start.steps words = .ok state) (hfinish : state.finish = .ok options)
    (hnot : ¬ state.IsReading) (rest : List String) :
    read (words ++ rest) = .ok { options with tokens := options.tokens ++ rest } := by
  rcases state with ⟨draft, pending⟩ | ⟨draft, tokens⟩
  · exact absurd trivial hnot
  · obtain rfl := Except.ok.inj hfinish
    exact read_append_of_closed hsteps rest

theorem read_append_of_tokens {words : List String} {options : Options}
    (h : read words = .ok options) (htokens : options.tokens ≠ []) (rest : List String) :
    read (words ++ rest) = .ok { options with tokens := options.tokens ++ rest } := by
  obtain ⟨state, hsteps, hfinish⟩ := (read_eq_ok_iff _ _).mp h
  have hnot : ¬ state.IsReading :=
    fun hreading => htokens (tokens_eq_nil_of_isReading hreading hfinish)
  exact read_append_of_not_isReading hsteps hfinish hnot rest

/-- A second separator is a token. -/
theorem read_append_of_getLast? {words : List String} {options : Options}
    (h : read words = .ok options) (hlast : words.getLast? = some "--") (rest : List String) :
    read (words ++ rest) = .ok { options with tokens := options.tokens ++ rest } := by
  obtain ⟨state, hsteps, hfinish⟩ := (read_eq_ok_iff _ _).mp h
  have hnot := not_isReading_of_getLast? hsteps hlast
  exact read_append_of_not_isReading hsteps hfinish hnot rest

/-- Words without a token are followed by the separator and any tokens. -/
theorem read_append_separator {words : List String} {options : Options}
    (h : read words = .ok options) (htokens : options.tokens = [])
    (hlast : words.getLast? ≠ some "--") (rest : List String) :
    read (words ++ ["--"] ++ rest) = .ok { options with tokens := rest } := by
  obtain ⟨state, hsteps, hfinish⟩ := (read_eq_ok_iff _ _).mp h
  rcases state with ⟨draft, pending⟩ | ⟨draft, tokens⟩
  · -- what is pending is judged by the separator as it is at the end
    obtain ⟨settled, hsettle, rfl⟩ := map_eq_ok_iff.mp hfinish
    have hclosed : start.steps (words ++ ["--"]) = .ok (.closed settled []) := by
      refine State.steps_concat_eq_ok_iff.mpr ⟨_, hsteps, ?_⟩
      rw [State.step, (Word.ofText_eq_separator_iff "--").mpr rfl]
      exact map_eq_ok_iff.mpr ⟨settled, hsettle, rfl⟩
    exact read_append_of_closed hclosed rest
  · obtain rfl := Except.ok.inj hfinish
    obtain rfl : tokens = [] := htokens
    exact absurd (getLast?_of_closed_nil hsteps) hlast

/-! ## The law -/

/-- When words give options and one token, which is the last of them, then with any words behind it
they give the same options, and these words are tokens too. And when words give options and no
token, then with two hyphens and any words behind they give the same options, and the tokens are
these words. Only behind two hyphens that are the last of the words, two more are a token. -/
theorem tokens_are_forwarded_as_they_stand (words rest : List String) (options : Options) :
    (∀ token, read (words ++ [token]) = .ok options → options.tokens = [token] →
      read (words ++ [token] ++ rest) = .ok { options with tokens := [token] ++ rest }) ∧
      (read words = .ok options → options.tokens = [] → words.getLast? ≠ some "--" →
        read (words ++ ["--"] ++ rest) = .ok { options with tokens := rest }) ∧
      (read words = .ok options → options.tokens = [] → words.getLast? = some "--" →
        read (words ++ ["--"] ++ rest) = .ok { options with tokens := ["--"] ++ rest }) := by
  refine ⟨?_, ?_, ?_⟩
  · intro token h htokens
    have hread := read_append_of_tokens h (htokens ▸ List.cons_ne_nil token []) rest
    rwa [htokens] at hread
  · intro h htokens hlast
    exact read_append_separator h htokens hlast rest
  · intro h htokens hlast
    have hread := read_append_of_getLast? h hlast (["--"] ++ rest)
    rwa [htokens, List.nil_append, ← List.append_assoc] at hread

/-- Of words that would be options or mistakes before the tokens. -/
theorem options_behind_a_token_are_forwarded :
    read ["-np", "/a:", "x"] = .ok { noColor := true, prefixes := ["/a:"], tokens := ["x"] } ∧
      read ["-np", "/a:", "x", "-n", "--format=bad", "--", "--help"] =
        .ok { noColor := true, prefixes := ["/a:"],
              tokens := ["x", "-n", "--format=bad", "--", "--help"] } ∧
      read ["-np", "/a:"] = .ok { noColor := true, prefixes := ["/a:"] } ∧
      read ["-np", "/a:", "--", "-n", "--"] =
        .ok { noColor := true, prefixes := ["/a:"], tokens := ["-n", "--"] } ∧
      read ["-n", "--"] = .ok { noColor := true } ∧
      read ["-n", "--", "--", "-n"] = .ok { noColor := true, tokens := ["--", "-n"] } := by
  have htoken : read ["-np", "/a:", "x"] =
      .ok { noColor := true, prefixes := ["/a:"], tokens := ["x"] } := by decide +kernel
  have hnone : read ["-np", "/a:"] = .ok { noColor := true, prefixes := ["/a:"] } := by
    decide +kernel
  have hclosed : read ["-n", "--"] = .ok { noColor := true } := by decide +kernel
  exact ⟨htoken,
    (tokens_are_forwarded_as_they_stand ["-np", "/a:"] ["-n", "--format=bad", "--", "--help"]
      _).1 "x" htoken rfl, hnone,
    (tokens_are_forwarded_as_they_stand ["-np", "/a:"] ["-n", "--"] _).2.1 hnone rfl (by decide),
    hclosed,
    (tokens_are_forwarded_as_they_stand ["-n", "--"] ["-n"] _).2.2 hclosed rfl (by decide)⟩

end ArgTable.CommandLine
