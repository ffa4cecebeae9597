-- Which problems with properties are told, text by text. A malformed text is told, and a text
-- whose key comes again is told with the value of the first text of that key, also when more
-- texts of the key follow. The reserved keys are told behind all texts, in an order of their own
-- and once each, however often they come. With no problem all texts are taken, in order.
import ArgTable.Proofs.PropertyLists
import ArgTable.Proofs.QuotedTexts
import Mathlib.Data.List.Dedup

namespace ArgTable.Property

/-! ## What there is to tell -/

/-- The keys of the well-formed texts, in order and as often as they come. -/
def keysOf (raws : List String) : List String := (raws.filterMap parse?).map (·.key)

/-- What is told of a text behind the earlier ones. Of the well-formed texts before it that have
its key, the first one counts. -/
def problem? (earlier : List String) (raw : String) : Option Notice :=
  match parse? raw with
  | none => some (.malformedProperty raw)
  | some property =>
    (find? property.key (earlier.filterMap parse?)).map fun first =>
      .repeatedProperty raw first.value

/-- What is told of the texts one by one, each behind those before it. -/
def textProblems (raws : List String) : List Notice :=
  raws.zipIdx.filterMap fun (raw, place) => problem? (raws.take place) raw

/-- The reserved keys that have an argument of their own, each with the literal to use. -/
def dedicated : List (String × String) :=
  [("sonar.projectKey", "/k:"), ("sonar.projectName", "/n:"), ("sonar.projectVersion", "/v:")]

def reservedNotice (key : String) : Notice :=
  match dedicated.lookup key with
  | some literal => .dedicatedProperty literal key
  | none => .automaticProperty key

/-- What is told of the keys. Each reserved one among them is told once. -/
def keyProblems (raws : List String) : List Notice :=
  (reservedKeys.filter (· ∈ keysOf raws)).map reservedNotice

/-- Everything that there is to tell of the texts. -/
def problems (raws : List String) : List Notice := textProblems raws ++ keyProblems raws

/-! ## Gathering tells it -/

theorem gather_append (raws : List String) (raw : String) :
    gather (raws ++ [raw]) = (gather raws).take raw := by
  unfold gather
  rw [List.foldl_append]
  rfl

theorem find?_append (key : String) (properties more : List Property) :
    find? key (properties ++ more) = (find? key properties).or (find? key more) :=
  List.find?_append

/-- A key that is there already finds the same property with one more of that key behind it. -/
theorem find?_concat_of_isSome {properties : List Property} {property : Property}
    (h : (find? property.key properties).isSome = true) (key : String) :
    find? key (properties ++ [property]) = find? key properties := by
  rw [find?_append]
  by_cases hkey : property.key = key
  · rw [← hkey]
    exact Option.or_of_isSome h
  · have hnone : find? key [property] = none := by simp [find?, hkey]
    rw [hnone, Option.or_none]

/-- Under each key the first of the well-formed texts is kept. -/
theorem find?_kept (raws : List String) (key : String) :
    find? key (gather raws).kept = find? key (raws.filterMap parse?) := by
  -- from the right end: a later text of a key is not kept, and it is not found either
  induction raws using List.reverseRecOn generalizing key with
  | nil => rfl
  | append_singleton raws raw ih =>
    rw [gather_append, List.filterMap_append]
    unfold Gathering.take
    rcases hparse : parse? raw with _ | property
    · have hlast : [raw].filterMap parse? = [] := by simp [hparse]
      rw [hlast, List.append_nil]
      exact ih key
    · have hlast : [raw].filterMap parse? = [property] := by simp [hparse]
      rw [hlast]
      rcases hfind : find? property.key (gather raws).kept with _ | existing
      · simp only [hfind]
        rw [find?_append, find?_append, ih]
      · have hsome : (find? property.key (raws.filterMap parse?)).isSome = true := by
          rw [← ih, hfind]
          rfl
        simp only [hfind]
        rw [find?_concat_of_isSome hsome, ih]

/-- A text more is told behind all the texts before it. -/
theorem textProblems_append (raws : List String) (raw : String) :
    textProblems (raws ++ [raw]) = textProblems raws ++ (problem? raws raw).toList := by
  unfold textProblems
  rw [List.zipIdx_append, List.filterMap_append]
  congr 1
  · refine List.filterMap_congr ?_
    rintro ⟨earlier, place⟩ hmem
    have hplace : place < raws.length := by simpa using List.snd_lt_of_mem_zipIdx hmem
    dsimp only
    rw [List.take_append_of_le_length (Nat.le_of_lt hplace)]
  · have htake : (raws ++ [raw]).take raws.length = raws := List.take_left
    rw [Nat.zero_add, List.zipIdx_singleton]
    cases hlast : problem? raws raw <;> simp [htake, hlast]

theorem notices_gather (raws : List String) : (gather raws).notices = textProblems raws := by
  induction raws using List.reverseRecOn with
  | nil => rfl
  | append_singleton raws raw ih =>
    rw [gather_append, textProblems_append, ← ih]
    unfold Gathering.take problem?
    rcases hparse : parse? raw with _ | property
    · rfl
    · dsimp only
      rw [← find?_kept]
      rcases hfind : find? property.key (gather raws).kept with _ | existing
      · simp
      · simp

theorem reserved_eq : reserved = reservedKeys.map fun key => (key, reservedNotice key) := by
  decide

/-- A reserved key is told when a well-formed text has it, be it kept or not. -/
theorem reservedNotices_kept (raws : List String) :
    reservedNotices (gather raws).kept = keyProblems raws := by
  have hkeys : (fun entry : String × Notice => (find? entry.1 (gather raws).kept).isSome) =
      fun entry => decide (entry.1 ∈ keysOf raws) := by
    funext entry
    rw [Bool.eq_iff_iff, decide_eq_true_eq, isSome_find?_iff]
    exact mem_kept_keys_iff raws entry.1
  unfold reservedNotices keyProblems
  rw [hkeys, reserved_eq, List.filter_map, List.map_map]
  rfl

theorem noticesOf_eq (raws : List String) : noticesOf raws = problems raws := by
  unfold noticesOf problems
  rw [notices_gather, reservedNotices_kept]

example : noticesOf ["sonar.projectKey=a", "x", "sonar.projectKey=b", "sonar.projectKey=c"] =
    [.malformedProperty "x", .repeatedProperty "sonar.projectKey=b" "a",
      .repeatedProperty "sonar.projectKey=c" "a",
      .dedicatedProperty "/k:" "sonar.projectKey"] := by
  decide +kernel

/-! ## How much there is to tell -/

/-- One property is kept for each of the keys. -/
theorem length_kept (raws : List String) :
    (gather raws).kept.length = (keysOf raws).dedup.length := by
  have hperm : ((gather raws).kept.map (·.key)).Perm (keysOf raws).dedup := by
    rw [List.perm_ext_iff_of_nodup (gather_of raws).distinct (List.nodup_dedup _)]
    intro key
    rw [mem_kept_keys_iff, List.mem_dedup]
    rfl
  rw [← hperm.length_eq, List.length_map]

theorem length_textProblems (raws : List String) :
    (textProblems raws).length = (raws.countP fun raw => (parse? raw).isNone) +
      ((keysOf raws).length - (keysOf raws).dedup.length) := by
  have hcounted := (gather_of raws).counted
  rw [length_kept, notices_gather] at hcounted
  have hle := (List.dedup_sublist (keysOf raws)).length_le
  have hparsed : (keysOf raws).length = raws.countP fun raw => (parse? raw).isSome := by
    unfold keysOf
    rw [List.length_map, List.length_filterMap_eq_countP]
  have hsplit : raws.length = (raws.countP fun raw => (parse? raw).isSome) +
      raws.countP fun raw => (parse? raw).isNone := by
    rw [List.length_eq_countP_add_countP fun raw => (parse? raw).isSome]
    simp only [Bool.not_eq_true, Option.isSome_eq_false_iff, Bool.decide_eq_true]
  omega

theorem length_problems (raws : List String) :
    (problems raws).length = (raws.countP fun raw => (parse? raw).isNone) +
      ((keysOf raws).length - (keysOf raws).dedup.length) +
      reservedKeys.countP fun key => key ∈ keysOf raws := by
  unfold problems keyProblems
  rw [List.length_append, length_textProblems, List.length_map, ← List.countP_eq_length_filter]

/-! ## Some properties or some problems -/

/-- Nothing is told when each text is well-formed and all the keys are new and free. -/
theorem problems_eq_nil_iff (raws : List String) :
    problems raws = [] ↔ (∀ raw ∈ raws, (parse? raw).isSome = true) ∧ (keysOf raws).Nodup ∧
      ∀ key ∈ reservedKeys, key ∉ keysOf raws := by
  rw [← List.length_eq_zero_iff, length_problems, Nat.add_eq_zero_iff, Nat.add_eq_zero_iff,
    and_assoc]
  refine and_congr ?_ (and_congr ?_ ?_)
  · simp [List.countP_eq_zero, Option.isSome_iff_ne_none]
  · rw [Nat.sub_eq_zero_iff_le]
    constructor
    · intro hle
      rw [← List.dedup_eq_self]
      exact (List.dedup_sublist _).eq_of_length_le hle
    · intro hnodup
      exact Nat.le_of_eq (congrArg List.length hnodup.dedup).symm
  · simp [List.countP_eq_zero]

theorem collect?_isSome_iff (raws : List String) :
    (collect? raws).isSome = true ↔ problems raws = [] := by
  unfold collect?
  rw [noticesOf_eq]
  cases problems raws <;> simp

theorem extractInto_eq {ι : Type} [DecidableEq ι] (journal : Journal) (name : ι)
    (instances : List (Instance ι)) :
    extractInto journal name instances = (collect? (Instance.values name instances),
      journal.recordAll ((problems (Instance.values name instances)).map (·.diagnostic))) := by
  rw [← noticesOf_eq]
  rfl

/-- Either nothing is told and all texts of the argument are taken, in order, or nothing is
taken and every problem is told behind the older entries, each in a message that holds the texts
it is about. The instances of other arguments, with the same literal or not, change nothing. -/
theorem properties_are_taken_or_each_problem_is_told {ι : Type} [DecidableEq ι]
    (journal : Journal) (name : ι) (instances : List (Instance ι)) :
    let raws := (instances.filter (·.name = name)).map (·.value)
    let told := (problems raws).map (·.diagnostic)
    let outcome := extractInto journal name instances
    outcome.2.entries = journal.entries ++ told ∧
    (outcome.1.isSome = true ↔ told = []) ∧
    (told = [] ↔ (∀ raw ∈ raws, (parse? raw).isSome = true) ∧ (keysOf raws).Nodup ∧
      ∀ key ∈ reservedKeys, key ∉ keysOf raws) ∧
    (∀ properties, outcome.1 = some properties → raws.map parse? = properties.map some) ∧
    (∀ diagnostic ∈ told, diagnostic.severity = .error) ∧
    (∀ problem ∈ problems raws, ∀ text ∈ problem.texts,
      Journal.mentions problem.message text = true) ∧
    told.length = (raws.countP fun raw => (parse? raw).isNone) +
      ((keysOf raws).length - (keysOf raws).dedup.length) +
      (reservedKeys.countP fun key => key ∈ keysOf raws) ∧
    ∀ before other after, other.name ≠ name → instances = before ++ other :: after →
      extractInto journal name (before ++ after) = outcome := by
  intro raws told outcome
  have houtcome : outcome = (collect? raws, journal.recordAll told) :=
    extractInto_eq journal name instances
  have hnil : told = [] ↔ problems raws = [] := List.map_eq_nil_iff
  rw [houtcome, hnil]
  refine ⟨rfl, collect?_isSome_iff raws, problems_eq_nil_iff raws, ?_, ?_, ?_, ?_, ?_⟩
  · intro properties hsome
    exact ((collect?_eq_some_iff raws properties).mp hsome).parsed
  · intro diagnostic hmem
    obtain ⟨notice, hnotice, rfl⟩ := List.mem_map.mp hmem
    rw [← noticesOf_eq] at hnotice
    exact Notice.severity_of_onProperty (onProperty_of_mem_noticesOf hnotice)
  · intro problem _
    exact problem.mentions_of_mem_texts
  · rw [List.length_map]
    exact length_problems raws
  · rintro before other after hother hinstances
    have hsame : Instance.values name (before ++ after) = raws := by
      simp [raws, Instance.values, hinstances, hother]
    rw [extractInto_eq, hsame]

end ArgTable.Property
