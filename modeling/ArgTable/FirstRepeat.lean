-- The first element of a list that equals an earlier one. A list has none exactly when its
-- elements are distinct.

namespace ArgTable

variable {α : Type} [DecidableEq α]

/-- The first element that is among `seen` or equals an element before it. -/
def firstRepeatAfter (seen : List α) : List α → Option α
  | [] => none
  | x :: xs => if x ∈ seen then some x else firstRepeatAfter (x :: seen) xs

/-- The first element that equals an earlier one. -/
def firstRepeat? (xs : List α) : Option α := firstRepeatAfter [] xs

theorem firstRepeatAfter_eq_none_iff (seen xs : List α) :
    firstRepeatAfter seen xs = none ↔ xs.Nodup ∧ ∀ x ∈ xs, x ∉ seen := by
  induction xs generalizing seen with
  | nil => simp [firstRepeatAfter]
  | cons x xs ih =>
    by_cases h : x ∈ seen
    · simp [firstRepeatAfter, h]
    · simp only [firstRepeatAfter, h, if_false, ih, List.nodup_cons, List.mem_cons]
      constructor
      · rintro ⟨distinct, fresh⟩
        refine ⟨⟨fun hx => (fresh x hx) (Or.inl rfl), distinct⟩, ?_⟩
        rintro y (rfl | hy)
        · exact h
        · exact fun hs => fresh y hy (Or.inr hs)
      · rintro ⟨⟨notLater, distinct⟩, fresh⟩
        refine ⟨distinct, fun y hy => ?_⟩
        rintro (rfl | hs)
        · exact notLater hy
        · exact fresh y (Or.inr hy) hs

/-- There is no repeat exactly in a list of distinct elements. -/
theorem firstRepeat?_eq_none_iff (xs : List α) : firstRepeat? xs = none ↔ xs.Nodup := by
  simp [firstRepeat?, firstRepeatAfter_eq_none_iff]

theorem firstRepeatAfter_eq_some_iff (seen xs : List α) (x : α) :
    firstRepeatAfter seen xs = some x ↔ ∃ before after, xs = before ++ x :: after ∧
      (x ∈ seen ∨ x ∈ before) ∧ before.Nodup ∧ ∀ y ∈ before, y ∉ seen := by
  induction xs generalizing seen with
  | nil => simp [firstRepeatAfter]
  | cons y ys ih =>
    by_cases h : y ∈ seen
    · simp only [firstRepeatAfter, h, if_true, Option.some.injEq]
      constructor
      · rintro rfl
        exact ⟨[], ys, rfl, Or.inl h, List.nodup_nil, by simp⟩
      · rintro ⟨_ | ⟨z, before⟩, after, hsplit, -, -, fresh⟩
        · exact (List.cons.inj hsplit).1
        · exact absurd ((List.cons.inj hsplit).1 ▸ h) (fresh z List.mem_cons_self)
    · simp only [firstRepeatAfter, h, if_false, ih]
      constructor
      · rintro ⟨before, after, rfl, hx, distinct, fresh⟩
        simp only [List.mem_cons, not_or] at hx fresh
        refine ⟨y :: before, after, rfl, ?_, ?_, ?_⟩
        · rw [List.mem_cons]
          exact or_left_comm.mp (or_assoc.mp hx)
        · exact List.nodup_cons.mpr ⟨fun hy => (fresh y hy).1 rfl, distinct⟩
        · simpa [h] using fun z hz => (fresh z hz).2
      · rintro ⟨_ | ⟨z, before⟩, after, hsplit, hx, distinct, fresh⟩
        · obtain ⟨rfl, rfl⟩ := List.cons.inj hsplit
          simp [h] at hx
        · obtain ⟨rfl, rfl⟩ := List.cons.inj hsplit
          obtain ⟨notLater, distinct⟩ := List.nodup_cons.mp distinct
          rw [List.mem_cons] at hx
          refine ⟨before, after, rfl, ?_, distinct, ?_⟩
          · rw [List.mem_cons]
            exact or_assoc.mpr (or_left_comm.mp hx)
          · intro z hz
            rw [List.mem_cons, not_or]
            exact ⟨fun heq => notLater (heq ▸ hz), fresh z (List.mem_cons_of_mem _ hz)⟩

/-- The first repeat is among the elements before it, and these are distinct. -/
theorem firstRepeat?_eq_some_iff (xs : List α) (x : α) :
    firstRepeat? xs = some x ↔
      ∃ before after, xs = before ++ x :: after ∧ x ∈ before ∧ before.Nodup := by
  simp [firstRepeat?, firstRepeatAfter_eq_some_iff]

end ArgTable
