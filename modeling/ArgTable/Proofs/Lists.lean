-- Facts about lists, and about options and results, that hold of elements of any kind.
import Mathlib.Data.List.TakeWhile

namespace ArgTable

variable {α β : Type}

/-! ## Lists that are put together -/

theorem flatMap_filter (p : α → Bool) (f : α → List β) (xs : List α) :
    (xs.filter p).flatMap f = xs.flatMap fun x => if p x then f x else [] := by
  induction xs with
  | nil => rfl
  | cons x xs ih => cases h : p x <;> simp [h, ih]

theorem map_filter (p : α → Bool) (f : α → β) (xs : List α) :
    (xs.filter p).map f = xs.flatMap fun x => if p x then [f x] else [] := by
  rw [List.map_eq_flatMap, flatMap_filter]

theorem first_of_single {before after : List α} {x only : α}
    (h : before ++ ([x] ++ after) = [only]) : before = [] ∧ x = only := by
  cases before with
  | nil => exact ⟨rfl, (List.cons.inj h).1⟩
  | cons first before => simp at h

/-! ## Lists with one element at most -/

theorem toList_head? {xs : List α} (h : xs.length ≤ 1) : xs.head?.toList = xs := by
  rcases xs with _ | ⟨x, _ | ⟨y, more⟩⟩
  · rfl
  · rfl
  · simp at h

theorem toList_injective {first second : Option α}
    (h : first.toList = second.toList) : first = second := by
  rw [← Option.head?_toList (o := first), h, Option.head?_toList]

/-- A list with one element at most has one order only. -/
theorem perm_eq_of_length_le {xs ys : List α} (h : xs.Perm ys) (hle : ys.length ≤ 1) :
    xs = ys := by
  rcases ys with _ | ⟨y, _ | ⟨z, more⟩⟩
  · exact List.perm_nil.mp h
  · exact List.perm_singleton.mp h
  · simp at hle

/-! ## Ascending lists -/

/-- In an ascending list, all but the first stand above another. -/
theorem mem_tail_iff_of_ascending {n : Nat} {places : List (Fin n)}
    (h : places.Pairwise (· < ·)) (place : Fin n) :
    place ∈ places.tail ↔ place ∈ places ∧ ∃ earlier ∈ places, earlier < place := by
  cases places with
  | nil => simp
  | cons first later =>
    obtain ⟨hfirst, -⟩ := List.pairwise_cons.mp h
    rw [List.tail_cons]
    constructor
    · intro hmem
      exact ⟨List.mem_cons_of_mem _ hmem, first, List.mem_cons_self, hfirst place hmem⟩
    · rintro ⟨hmem, earlier, hearlier, hlt⟩
      rcases List.mem_cons.mp hmem with rfl | hmem
      · rcases List.mem_cons.mp hearlier with rfl | hearlier
        · exact absurd hlt (Fin.lt_irrefl _)
        · exact absurd (hfirst earlier hearlier) (Fin.lt_asymm hlt)
      · exact hmem

/-! ## Lists that are split -/

/-- The first piece of a split ends at the first place to split at, and the others are those that
start behind such a place. -/
theorem splitOn_pieces [DecidableEq α] {x : α} {xs first : List α} {more : List (List α)}
    (h : xs.splitOn x = first :: more) :
    first = xs.takeWhile (· ≠ x) ∧ ∀ piece, piece ∈ more ↔
      ∃ after, piece = after.takeWhile (· ≠ x) ∧ x :: after <:+ xs := by
  rw [List.splitOn_eq_splitOnP] at h
  induction xs generalizing first more with
  | nil =>
    rw [List.splitOnP_nil] at h
    obtain ⟨rfl, rfl⟩ := List.cons.inj h
    exact ⟨rfl, by simp⟩
  | cons y ys ih =>
    obtain ⟨second, others, hpieces⟩ :=
      List.exists_cons_of_ne_nil (List.splitOnP_ne_nil (· == x) ys)
    obtain ⟨hsecond, hothers⟩ := ih hpieces
    rw [List.splitOnP_cons_eq_if_modifyHead, hpieces] at h
    split at h
    · next hy =>
      obtain rfl := beq_iff_eq.mp hy
      obtain ⟨rfl, rfl⟩ := List.cons.inj h
      refine ⟨by simp, fun piece => ?_⟩
      rw [List.mem_cons, hothers, hsecond]
      simp only [List.suffix_cons_iff, List.cons.injEq, true_and, and_or_left, exists_or,
        exists_eq_right]
    · next hy =>
      obtain ⟨rfl, rfl⟩ := List.cons.inj h
      have hne : x ≠ y := fun heq => hy (beq_iff_eq.mpr heq.symm)
      refine ⟨?_, fun piece => ?_⟩
      · rw [List.takeWhile_cons_of_pos (by simpa using hne.symm), hsecond]
      · rw [hothers]
        simp only [List.suffix_cons_iff, List.cons.injEq, hne, false_and, false_or]

/-- No piece holds what the list was split at. -/
theorem not_mem_of_mem_splitOn [DecidableEq α] {x : α} {xs piece : List α}
    (h : piece ∈ xs.splitOn x) : x ∉ piece := by
  have hwhile : ∃ after : List α, piece = after.takeWhile (· ≠ x) := by
    obtain ⟨first, more, hpieces⟩ := List.exists_cons_of_ne_nil (List.splitOn_ne_nil x xs)
    obtain ⟨hfirst, hmore⟩ := splitOn_pieces hpieces
    rw [hpieces, List.mem_cons] at h
    rcases h with rfl | h
    · exact ⟨xs, hfirst⟩
    · obtain ⟨after, hpiece, -⟩ := (hmore piece).mp h
      exact ⟨after, hpiece⟩
  obtain ⟨after, rfl⟩ := hwhile
  intro hmem
  simpa using List.mem_takeWhile_imp hmem

/-! ## Results -/

theorem bind_eq_ok_iff {ε : Type} {x : Except ε α} {f : α → Except ε β} {b : β} :
    x.bind f = .ok b ↔ ∃ a, x = .ok a ∧ f a = .ok b := by
  cases x with
  | error e => exact ⟨fun h => (by cases h), fun ⟨a, h, _⟩ => (by cases h)⟩
  | ok a => exact ⟨fun h => ⟨a, rfl, h⟩, fun ⟨a', h, hf⟩ => Except.ok.inj h ▸ hf⟩

theorem map_eq_ok_iff {ε : Type} {x : Except ε α} {f : α → β} {b : β} :
    x.map f = .ok b ↔ ∃ a, x = .ok a ∧ f a = b := by
  cases x with
  | error e => exact ⟨fun h => (by cases h), fun ⟨a, h, _⟩ => (by cases h)⟩
  | ok a => simp [Except.map]

end ArgTable
