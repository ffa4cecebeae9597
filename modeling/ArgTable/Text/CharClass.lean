-- Classes of characters. A class is a list of runs of code points, and a character is in
-- it when one of the runs holds its code point.

namespace ArgTable.Text

/-- Runs of code points, each given by its first and its last. -/
abbrev Runs := List (Nat × Nat)

/-- The character lies in one of the runs. -/
def Runs.has (runs : Runs) (c : Char) : Bool :=
  runs.any fun run => run.1 ≤ c.toNat && c.toNat ≤ run.2

theorem Runs.has_iff (runs : Runs) (c : Char) :
    runs.has c = true ↔ ∃ run ∈ runs, run.1 ≤ c.toNat ∧ c.toNat ≤ run.2 := by
  simp [Runs.has, List.any_eq_true]

end ArgTable.Text
