-- Which texts are taken as a list of properties. Gathering keeps the first property of each
-- key and says something of every other text. So it says nothing exactly when each text spells
-- a property and no key comes twice, and then it keeps them all, in order.
import ArgTable.Proofs.NoticeKinds
import Mathlib.Data.List.Nodup
import Mathlib.Data.List.Perm.Basic

namespace ArgTable.Property

/-- The keys that no property may set. -/
def reservedKeys : List String :=
  ["sonar.projectKey", "sonar.projectName", "sonar.projectVersion", "sonar.working.directory"]

theorem map_reserved : reserved.map (·.1) = reservedKeys := rfl

/-- The texts spell the properties, one each and in order. The keys are distinct and none is
reserved. -/
structure Spelled (raws : List String) (properties : List Property) : Prop where
  parsed : raws.map parse? = properties.map some
  distinct : (properties.map (·.key)).Nodup
  free : ∀ property ∈ properties, property.key ∉ reservedKeys

/-- The texts leave no choice of the properties. -/
theorem Spelled.eq {raws : List String} {properties others : List Property}
    (h : Spelled raws properties) (h' : Spelled raws others) : properties = others :=
  List.map_injective_iff.mpr (fun _ _ => Option.some.inj) (h.parsed.symm.trans h'.parsed)

/-! ## One text more -/

theorem isSome_find?_iff (key : String) (properties : List Property) :
    (find? key properties).isSome = true ↔ key ∈ properties.map (·.key) := by
  simp [find?, List.mem_map]

/-- What gathering makes of the texts. It keeps some of the properties that they spell, one for
each key, and it says something of each other text. -/
structure Gathering.Of (gathering : Gathering) (raws : List String) : Prop where
  sublist : gathering.kept.Sublist (raws.filterMap parse?)
  distinct : (gathering.kept.map (·.key)).Nodup
  keys : ∀ property ∈ raws.filterMap parse?, property.key ∈ gathering.kept.map (·.key)
  counted : gathering.kept.length + gathering.notices.length = raws.length

namespace Gathering.Of

variable {gathering : Gathering} {raws : List String}

theorem tell (h : gathering.Of raws) {raw : String} (notice : Notice)
    (hraw : ∀ property, parse? raw = some property →
      property.key ∈ gathering.kept.map (·.key)) :
    Of { gathering with notices := gathering.notices ++ [notice] } (raws ++ [raw]) where
  sublist := by
    rw [List.filterMap_append]
    exact h.sublist.trans (List.sublist_append_left _ _)
  distinct := h.distinct
  keys := by
    intro property hmem
    rw [List.filterMap_append, List.mem_append] at hmem
    rcases hmem with hmem | hmem
    · exact h.keys property hmem
    · exact hraw property (by simpa using hmem)
  counted := by
    have := h.counted
    simp only [List.length_append, List.length_singleton]
    omega

theorem keep (h : gathering.Of raws) {raw : String} {property : Property}
    (hparse : parse? raw = some property) (hnew : property.key ∉ gathering.kept.map (·.key)) :
    Of { gathering with kept := gathering.kept ++ [property] } (raws ++ [raw]) where
  sublist := by
    simpa [List.filterMap_append, hparse] using h.sublist
  distinct := by
    rw [List.map_append, List.nodup_append]
    refine ⟨h.distinct, List.nodup_singleton _, ?_⟩
    intro key hkey last hlast
    rw [List.mem_singleton.mp hlast]
    rintro rfl
    exact hnew hkey
  keys := by
    intro other hmem
    rw [List.filterMap_append, List.mem_append] at hmem
    rw [List.map_append, List.mem_append]
    rcases hmem with hmem | hmem
    · exact Or.inl (h.keys other hmem)
    · obtain rfl : other = property := by simpa [hparse] using hmem
      exact Or.inr (List.mem_singleton_self _)
  counted := by
    have := h.counted
    simp only [List.length_append, List.length_singleton]
    omega

theorem take (h : gathering.Of raws) (raw : String) :
    (gathering.take raw).Of (raws ++ [raw]) := by
  unfold Gathering.take
  split
  · next hparse =>
    apply h.tell
    simp [hparse]
  · next property hparse =>
    split
    · next existing hfind =>
      apply h.tell
      intro other hother
      obtain rfl : property = other := by simpa [hparse] using hother
      rw [← isSome_find?_iff, hfind]
      rfl
    · next hfind =>
      apply h.keep hparse
      rw [← isSome_find?_iff, hfind]
      exact Bool.false_ne_true

end Gathering.Of

theorem gather_of (raws : List String) : (gather raws).Of raws := by
  induction raws using List.reverseRecOn with
  | nil => exact ⟨List.Sublist.refl _, List.nodup_nil, by simp, rfl⟩
  | append_singleton raws raw ih =>
    unfold gather at *
    rw [List.foldl_append]
    exact ih.take raw

/-- The keys that are kept are all there are. -/
theorem mem_kept_keys_iff (raws : List String) (key : String) :
    key ∈ (gather raws).kept.map (·.key) ↔ key ∈ (raws.filterMap parse?).map (·.key) := by
  have hof := gather_of raws
  constructor
  · intro h
    exact (hof.sublist.map _).subset h
  · intro h
    obtain ⟨property, hmem, rfl⟩ := List.mem_map.mp h
    exact hof.keys property hmem

/-! ## All texts -/

theorem map_parse?_eq_iff (raws : List String) (properties : List Property) :
    raws.map parse? = properties.map some ↔
      raws.filterMap parse? = properties ∧ properties.length = raws.length := by
  constructor
  · intro h
    refine ⟨?_, by simpa using (congrArg List.length h).symm⟩
    have hid := congrArg (List.filterMap id) h
    simpa [List.filterMap_map, Function.comp_def] using hid
  · rintro ⟨rfl, hlength⟩
    have hall := List.filterMap_length_eq_length.mp hlength
    rw [List.map_filterMap_some_eq_filter_map_isSome, eq_comm, List.filter_eq_self]
    intro found hmem
    obtain ⟨raw, hraw, rfl⟩ := List.mem_map.mp hmem
    exact hall raw hraw

/-- When nothing is told, all is kept. -/
theorem parsed_of_gather_notices {raws : List String} (h : (gather raws).notices = []) :
    raws.map parse? = (gather raws).kept.map some := by
  have hof := gather_of raws
  have hlength : (gather raws).kept.length = raws.length := by
    simpa [h] using hof.counted
  have hle : (raws.filterMap parse?).length ≤ (gather raws).kept.length := by
    rw [hlength]
    exact List.length_filterMap_le _ _
  rw [map_parse?_eq_iff]
  exact ⟨(hof.sublist.eq_of_length_le hle).symm, hlength⟩

/-- Properties under distinct keys are all kept, and nothing is told. -/
theorem gather_of_parsed {raws : List String} {properties : List Property}
    (hparsed : raws.map parse? = properties.map some)
    (hdistinct : (properties.map (·.key)).Nodup) :
    (gather raws).kept = properties ∧ (gather raws).notices = [] := by
  obtain ⟨rfl, hlength⟩ := (map_parse?_eq_iff raws properties).mp hparsed
  have hof := gather_of raws
  -- each of the distinct keys is kept, so as many properties are kept as there are
  have hle : (raws.filterMap parse?).length ≤ (gather raws).kept.length := by
    have hsub : (raws.filterMap parse?).map (·.key) ⊆ (gather raws).kept.map (·.key) := by
      intro key hkey
      obtain ⟨property, hmem, rfl⟩ := List.mem_map.mp hkey
      exact hof.keys property hmem
    simpa using (List.subperm_of_subset hdistinct hsub).length_le
  have hkept := hof.sublist.eq_of_length_le hle
  refine ⟨hkept, ?_⟩
  have hcounted := hof.counted
  rw [hkept, hlength] at hcounted
  exact List.length_eq_zero_iff.mp (by omega)

theorem reservedNotices_eq_nil_iff (kept : List Property) :
    reservedNotices kept = [] ↔ ∀ property ∈ kept, property.key ∉ reservedKeys := by
  unfold reservedNotices
  rw [List.map_eq_nil_iff, List.filter_eq_nil_iff, ← map_reserved]
  simp only [isSome_find?_iff]
  constructor
  · intro h property hmem hkey
    obtain ⟨entry, hentry, heq⟩ := List.mem_map.mp hkey
    exact h entry hentry (heq ▸ List.mem_map_of_mem hmem)
  · intro h entry hentry hkey
    obtain ⟨property, hmem, heq⟩ := List.mem_map.mp hkey
    exact h property hmem (heq ▸ List.mem_map_of_mem hentry)

/-- Texts are taken as properties exactly when they spell them. -/
theorem collect?_eq_some_iff (raws : List String) (properties : List Property) :
    collect? raws = some properties ↔ Spelled raws properties := by
  have hcollect : collect? raws = some properties ↔
      ((gather raws).notices = [] ∧ reservedNotices (gather raws).kept = []) ∧
        (gather raws).kept = properties := by
    unfold collect? noticesOf
    rw [Option.ite_none_right_eq_some, List.isEmpty_iff, List.append_eq_nil_iff,
      Option.some.injEq]
  rw [hcollect, reservedNotices_eq_nil_iff]
  constructor
  · rintro ⟨⟨hnone, hfree⟩, rfl⟩
    exact ⟨parsed_of_gather_notices hnone, (gather_of raws).distinct, hfree⟩
  · rintro ⟨hparsed, hdistinct, hfree⟩
    obtain ⟨rfl, hnone⟩ := gather_of_parsed hparsed hdistinct
    exact ⟨⟨hnone, hfree⟩, rfl⟩

theorem noticesOf_of_spelled {raws : List String} {properties : List Property}
    (h : Spelled raws properties) : noticesOf raws = [] := by
  have hcollect := (collect?_eq_some_iff raws properties).mpr h
  unfold collect? at hcollect
  rw [Option.ite_none_right_eq_some] at hcollect
  exact List.isEmpty_iff.mp hcollect.1

end ArgTable.Property
