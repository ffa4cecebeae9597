-- What the checks of a parse tell, as lists. Each check counts what it tells as it goes, and its
-- number is always that of its notices. So a parse goes through exactly when nothing is told.
import ArgTable.Proofs.Lists
import ArgTable.Table

namespace ArgTable

/-! ## Loops that count -/

namespace Tally

/-- The notices and how many they are. -/
def ofNotices (notices : List Notice) : Tally := ⟨notices, notices.length⟩

theorem tell_ofNotices (notices : List Notice) (notice : Notice) :
    (ofNotices notices).tell notice = ofNotices (notices ++ [notice]) := by
  simp [tell, ofNotices]

theorem followedBy_ofNotices (notices later : List Notice) :
    (ofNotices notices).followedBy (ofNotices later) = ofNotices (notices ++ later) := by
  simp [followedBy, ofNotices]

/-- A loop counts what it tells when each of its steps does. -/
theorem foldl_ofNotices {α : Type} {step : Tally → α → Tally} {told : α → List Notice}
    (hstep : ∀ notices a, step (ofNotices notices) a = ofNotices (notices ++ told a))
    (notices : List Notice) (as : List α) :
    as.foldl step (ofNotices notices) = ofNotices (notices ++ as.flatMap told) := by
  induction as generalizing notices with
  | nil => simp
  | cons a as ih => rw [List.foldl_cons, hstep, ih, List.flatMap_cons, List.append_assoc]

/-- A loop that tells one notice of some elements and passes over the others. -/
theorem foldl_tell {α : Type} {step : Tally → α → Tally} {p : α → Bool} {told : α → Notice}
    (hstep : ∀ tally a, step tally a = if p a then tally.tell (told a) else tally)
    (notices : List Notice) (as : List α) :
    as.foldl step (ofNotices notices) = ofNotices (notices ++ (as.filter p).map told) := by
  rw [map_filter]
  apply foldl_ofNotices
  intro notices a
  rw [hstep]
  split
  · exact tell_ofNotices notices _
  · rw [List.append_nil]

end Tally

namespace Table

variable {ι : Type}

/-! ## What each check tells -/

/-- The tokens that belong to no argument, in token order. -/
def strangers (table : Table ι) (tokens : List String) : List String :=
  tokens.filter fun token => (table.recognize? token).isNone

theorem foldl_checkToken (table : Table ι) (tokens : List String) :
    tokens.foldl table.checkToken {} = .ofNotices
      (if table.lenient then [] else (table.strangers tokens).map .unrecognized) := by
  have hstep (tally : Tally) (token : String) : table.checkToken tally token =
      if !table.lenient && (table.recognize? token).isNone then tally.tell (.unrecognized token)
      else tally := by
    unfold checkToken
    cases table.recognize? token <;> cases table.lenient <;> rfl
  refine (Tally.foldl_tell hstep [] tokens).trans (congrArg Tally.ofNotices ?_)
  cases table.lenient
  · rfl
  · simp

variable [DecidableEq ι]

/-- One notice for each token after the first that belongs to an argument which may be
supplied once. It quotes the value of the first. -/
def repeatsOf (table : Table ι) (found : List (String × Instance ι)) (name : ι) : List Notice :=
  if (table.argument name).multiple then []
  else match found.filter fun pair => pair.2.name = name with
    | [] => []
    | first :: later => later.map fun pair => .repeated pair.1 first.2.value

/-- The repeated arguments, in table order. -/
def repeats (table : Table ι) (found : List (String × Instance ι)) : List Notice :=
  table.order.flatMap (table.repeatsOf found)

/-- The required arguments that no token belongs to, in table order. -/
def missing (table : Table ι) (found : List (String × Instance ι)) : List Notice :=
  (table.order.filter fun name =>
    (table.argument name).required && !found.any fun pair => pair.2.name = name).map fun name =>
      .missing (table.argument name).description

theorem checkRepeats_ofNotices (table : Table ι) (found : List (String × Instance ι))
    (notices : List Notice) (name : ι) :
    table.checkRepeats found (.ofNotices notices) name =
      .ofNotices (notices ++ table.repeatsOf found name) := by
  unfold checkRepeats repeatsOf
  split
  · rw [List.append_nil]
  · cases found.filter fun pair => pair.2.name = name with
    | nil => rw [List.append_nil]
    | cons first later =>
      dsimp only
      rw [List.map_eq_flatMap]
      apply Tally.foldl_ofNotices
      intro notices pair
      exact Tally.tell_ofNotices notices _

theorem foldl_checkRepeats (table : Table ι) (found : List (String × Instance ι)) :
    table.order.foldl (table.checkRepeats found) {} = .ofNotices (table.repeats found) :=
  Tally.foldl_ofNotices (table.checkRepeats_ofNotices found) [] table.order

theorem foldl_checkRequired (table : Table ι) (found : List (String × Instance ι)) :
    table.order.foldl (table.checkRequired found) {} = .ofNotices (table.missing found) :=
  Tally.foldl_tell (fun _ _ => rfl) [] table.order

/-! ## All checks -/

theorem notices_eq (table : Table ι) (tokens : List String) :
    table.notices tokens =
      (if table.lenient then [] else (table.strangers tokens).map .unrecognized)
        ++ table.repeats (table.matched tokens)
        ++ table.missing (table.matched tokens) := by
  simp only [notices, check, foldl_checkToken, foldl_checkRepeats, foldl_checkRequired]
  rfl

/-- The checks of a parse count exactly the notices that they tell. -/
theorem check_eq (table : Table ι) (tokens : List String) :
    table.check tokens = .ofNotices (table.notices tokens) := by
  rw [notices_eq]
  simp only [check, foldl_checkToken, foldl_checkRepeats, foldl_checkRequired,
    Tally.followedBy_ofNotices]

theorem errors_check (table : Table ι) (tokens : List String) :
    (table.check tokens).errors = (table.notices tokens).length := by
  rw [check_eq]
  rfl

theorem success_eq (table : Table ι) (tokens : List String) :
    (table.parse tokens).success = (table.notices tokens).isEmpty := by
  rw [Bool.eq_iff_iff]
  simp [parse, errors_check]

theorem instances_eq (table : Table ι) (tokens : List String) :
    (table.parse tokens).instances =
      if (table.notices tokens).isEmpty then (table.matched tokens).map (·.2) else [] := by
  simp [parse, errors_check]

theorem trace_eq (table : Table ι) (tokens : List String) :
    table.trace tokens =
      tokens.flatMap table.traceOf ++ traceOfErrors (table.notices tokens).length := by
  rw [trace, errors_check]

end Table

end ArgTable
