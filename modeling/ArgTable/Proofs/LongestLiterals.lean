-- Which literal a token is read by. The first argument that accepts a token takes it, and of its
-- literals the first that matches, so a token is read by the first literal of the whole table that
-- matches it. When no literal starts a longer one behind it, that is the longest of all literals
-- that match. Literals in order of length are always so.
import ArgTable.Proofs.LenientTables

namespace ArgTable

/-! ## Literals -/

/-- A literal of a table, and whether it is the word of a verb. -/
structure Literal where
  text : String
  isVerb : Bool
  deriving DecidableEq

/-- The word of a verb is the whole token, and any other literal stands at its start. -/
def Literal.Matches (literal : Literal) (token : String) : Prop :=
  if literal.isVerb then token = literal.text else Opens literal.text token

theorem Literal.Matches.opens {literal : Literal} {token : String} (h : literal.Matches token) :
    Opens literal.text token := by
  unfold Matches at h
  split at h
  · rw [h]
    exact Opens.refl literal.text
  · exact h

/-- The literals of a form, in order of declaration. -/
def Form.listed (form : Form) : List Literal :=
  form.literals.map fun text => ⟨text, form.isVerb⟩

theorem Form.isSome_accept?_iff (form : Form) (token : String) :
    (form.accept? token).isSome = true ↔ ∃ literal ∈ form.listed, literal.Matches token := by
  rw [accept?_eq, Option.isSome_ite]
  cases form <;> simp [listed, literals, isVerb, Literal.Matches, Accepts]

theorem Form.first_of_accept? {form : Form} {token value : String}
    (h : form.accept? token = some value) : ∃ before literal after,
      form.listed = before ++ literal :: after ∧ literal.Matches token ∧
        token = literal.text ++ value ∧ ∀ other ∈ before, ¬ other.Matches token := by
  cases form with
  | verb word =>
    obtain ⟨hword, hvalue⟩ := Option.ite_none_right_eq_some.mp h
    refine ⟨[], ⟨word, true⟩, [], rfl, hword, ?_, by simp⟩
    rw [hword, ← Option.some.inj hvalue, String.append_empty]
  | prefixed texts =>
    obtain ⟨before, text, after, rfl, htext, hbefore⟩ := List.findSome?_eq_some_iff.mp h
    have htoken := (remainder?_eq_some_iff text token value).mp htext
    refine ⟨before.map (⟨·, false⟩), ⟨text, false⟩, after.map (⟨·, false⟩), ?_, ⟨value, htoken⟩,
      htoken, ?_⟩
    · exact List.map_append ..
    · intro other hmem hmatches
      obtain ⟨earlier, hearlier, rfl⟩ := List.mem_map.mp hmem
      have hsome := (isSome_remainder?_iff earlier token).mpr hmatches
      rw [hbefore earlier hearlier] at hsome
      cases hsome

theorem Opens.size_le {literal other : String} (h : Opens literal other) :
    literal.length ≤ other.length ∧ literal.utf8ByteSize ≤ other.utf8ByteSize := by
  obtain ⟨rest, rfl⟩ := h
  rw [String.length_append, String.utf8ByteSize_append]
  exact ⟨Nat.le_add_right _ _, Nat.le_add_right _ _⟩

namespace Table

variable {ι : Type}

/-- All literals of the table, in table order and then in order of declaration. -/
def listed (table : Table ι) : List Literal :=
  table.order.flatMap fun name => (table.argument name).form.listed

/-- No literal that stands in front of a value starts a longer one that is listed after it. -/
def LongerFirst (table : Table ι) : Prop :=
  table.listed.Pairwise fun first later =>
    first.isVerb = false → Opens first.text later.text → first.text = later.text

instance (table : Table ι) : Decidable table.LongerFirst :=
  inferInstanceAs (Decidable (List.Pairwise _ _))

/-- No literal is larger than one that is listed before it. -/
def LargestFirst (table : Table ι) (size : String → Nat) : Prop :=
  table.listed.Pairwise fun first later => size later.text ≤ size first.text

/-- The literals are in order of length, counted in characters or in bytes. -/
def ByLength (table : Table ι) : Prop :=
  table.LargestFirst String.length ∨ table.LargestFirst String.utf8ByteSize

/-- The instance carries what is behind one of the literals of its argument that match the token,
and no literal of the table that matches is longer. Each of them starts this one. -/
def ReadByLongest (table : Table ι) (token : String) (found : Instance ι) : Prop :=
  found.name ∈ table.order ∧
    ∃ literal ∈ (table.argument found.name).form.listed, literal.Matches token ∧
      token = literal.text ++ found.value ∧
      ∀ other ∈ table.listed, other.Matches token → Opens other.text literal.text ∧
        other.text.length ≤ literal.text.length ∧
        other.text.utf8ByteSize ≤ literal.text.utf8ByteSize

/-! ## Literals in order of length -/

/-- In order of a size that grows with a text, longer literals come first. -/
theorem LargestFirst.longerFirst {table : Table ι} {size : String → Nat}
    (hsize : ∀ literal rest, size (literal ++ rest) ≤ size literal → rest = "")
    (h : table.LargestFirst size) : table.LongerFirst := by
  refine h.imp ?_
  rintro first ⟨text, isVerb⟩ hle - ⟨rest, rfl⟩
  rw [hsize first.text rest hle, String.append_empty]

theorem ByLength.longerFirst {table : Table ι} (h : table.ByLength) : table.LongerFirst := by
  rcases h with h | h
  · refine h.longerFirst fun literal rest hle => ?_
    rw [String.length_append] at hle
    exact String.length_eq_zero_iff.mp (by omega)
  · refine h.longerFirst fun literal rest hle => ?_
    rw [String.utf8ByteSize_append] at hle
    exact String.utf8ByteSize_eq_zero_iff.mp (by omega)

/-! ## The first literal that matches -/

/-- A token is read by the first literal of the whole table that matches it. -/
theorem first_of_recognize? {table : Table ι} {token : String} {found : Instance ι}
    (h : table.recognize? token = some found) :
    found.name ∈ table.order ∧ ∃ before literal after,
      table.listed = before ++ literal :: after ∧
        literal ∈ (table.argument found.name).form.listed ∧ literal.Matches token ∧
        token = literal.text ++ found.value ∧ ∀ other ∈ before, ¬ other.Matches token := by
  obtain ⟨earlier, name, later, horder, haccept, hearlier⟩ := List.findSome?_eq_some_iff.mp h
  obtain ⟨value, hvalue, rfl⟩ := Option.map_eq_some_iff.mp haccept
  obtain ⟨before, literal, after, hlisted, hmatches, htoken, hbefore⟩ :=
    Form.first_of_accept? hvalue
  refine ⟨by simp [horder],
    (earlier.flatMap fun name => (table.argument name).form.listed) ++ before, literal,
    after ++ later.flatMap fun name => (table.argument name).form.listed, ?_, by simp [hlisted],
    hmatches, htoken, ?_⟩
  · simp [listed, horder, hlisted]
  · intro other hmem hother
    rcases List.mem_append.mp hmem with hmem | hmem
    · -- an earlier argument with this literal would have taken the token
      obtain ⟨name', hname', hlisted'⟩ := List.mem_flatMap.mp hmem
      have hsome := (Form.isSome_accept?_iff _ token).mpr ⟨other, hlisted', hother⟩
      have hnone := Option.map_eq_none_iff.mp (hearlier name' hname')
      rw [Argument.accept?] at hnone
      rw [hnone] at hsome
      cases hsome
    · exact hbefore other hmem hother

/-- When longer literals come first, the first that matches is the longest. -/
theorem LongerFirst.readByLongest {table : Table ι} (h : table.LongerFirst) {token : String}
    {found : Instance ι} (hfound : table.recognize? token = some found) :
    table.ReadByLongest token found := by
  obtain ⟨hname, before, literal, after, hlisted, hmem, hmatches, htoken, hbefore⟩ :=
    first_of_recognize? hfound
  refine ⟨hname, literal, hmem, hmatches, htoken, fun other hother hmatches' => ?_⟩
  suffices hopens : Opens other.text literal.text from ⟨hopens, hopens.size_le⟩
  unfold LongerFirst at h
  rw [hlisted] at h hother
  rcases List.mem_append.mp hother with hother | hother
  · exact absurd hmatches' (hbefore other hother)
  rcases List.mem_cons.mp hother with rfl | hother
  · exact Opens.refl other.text
  rcases hverb : literal.isVerb with _ | _
  · rcases hmatches'.opens.comparable hmatches.opens with hopens | hopens
    · exact hopens
    · -- the literal starts the other one, which is listed after it, so both are the same text
      have hpairs := (List.pairwise_append.mp h).2.1
      rw [(List.pairwise_cons.mp hpairs).1 other hother hverb hopens]
      exact Opens.refl other.text
  · have hword : token = literal.text := by simpa [Literal.Matches, hverb] using hmatches
    rw [← hword]
    exact hmatches'.opens

/-! ## The law -/

/-- When no literal in front of a value starts a longer one that is listed after it, every token
that some argument accepts is read by the longest literal of the table that matches it. So it is
when the literals are in order of length. The instances of a parse that goes through are read so,
one from each token that is accepted, in token order. -/
theorem a_token_is_read_by_its_longest_literal [DecidableEq ι] (table : Table ι)
    (h : table.LongerFirst ∨ table.ByLength) (tokens : List String) :
    (∀ token, (∃ name ∈ table.order, ((table.argument name).accept? token).isSome = true) →
      ∃ found, table.recognize? token = some found ∧ table.ReadByLongest token found) ∧
    ((table.parse tokens).success = true → List.Forall₂ table.ReadByLongest
      (tokens.filter table.knows) (table.parse tokens).instances) := by
  have hlonger : table.LongerFirst := h.elim id ByLength.longerFirst
  constructor
  · intro token haccepts
    have hknows : table.knows token = true := List.any_eq_true.mpr haccepts
    rw [← isSome_recognize?] at hknows
    obtain ⟨found, hfound⟩ := Option.isSome_iff_exists.mp hknows
    exact ⟨found, hfound, hlonger.readByLongest hfound⟩
  · intro hsuccess
    rw [instances_eq_filterMap_recognize? ((success_iff table tokens).mp hsuccess)]
    exact forall₂_recognize? (fun _ _ => hlonger.readByLongest) tokens

/-- A literal, the word that starts it, and a short literal that starts both. -/
def overlapping : Table (Fin 3) where
  argument
    | 0 => { form := .prefixed ["/all:"], description := "a list", faultless := by decide }
    | 1 => { form := .verb "/all", description := "everything", faultless := by decide }
    | 2 => { form := .prefixed ["/a", "/more:"], description := "an item", multiple := true,
             faultless := by decide }
  order := [0, 1, 2]
  distinct := by decide
  lenient := false

/-- Of tokens that start with the shortest literal. -/
theorem overlapping_literals_are_read_longest_first :
    overlapping.LongerFirst ∧
      (overlapping.parse ["/all", "/all:x", "/allx"]).success = true ∧
      List.Forall₂ overlapping.ReadByLongest ["/all", "/all:x", "/allx"]
        [⟨1, ""⟩, ⟨0, "x"⟩, ⟨2, "llx"⟩] := by
  have hlonger : overlapping.LongerFirst := by decide +kernel
  have hsuccess : (overlapping.parse ["/all", "/all:x", "/allx"]).success = true := by
    decide +kernel
  have hinstances : (overlapping.parse ["/all", "/all:x", "/allx"]).instances =
      [⟨1, ""⟩, ⟨0, "x"⟩, ⟨2, "llx"⟩] := by decide +kernel
  have hknown : ["/all", "/all:x", "/allx"].filter overlapping.knows =
      ["/all", "/all:x", "/allx"] := by decide +kernel
  have hread := (a_token_is_read_by_its_longest_literal overlapping (Or.inl hlonger)
    ["/all", "/all:x", "/allx"]).2 hsuccess
  rw [hknown, hinstances] at hread
  exact ⟨hlonger, hsuccess, hread⟩

end Table

end ArgTable
