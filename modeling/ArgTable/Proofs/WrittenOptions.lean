-- Options that are written out. Every option has a long form, with its value behind an equals sign
-- if it takes one. When the long forms of all options stand in front of two hyphens and the tokens
-- behind them, reading gives the options back, in whatever order the long forms stand.
import ArgTable.Proofs.ForwardedTokens
import Mathlib.Data.List.Induction
import Mathlib.Data.List.Perm.Basic

namespace ArgTable

namespace CommandLine

/-! ## Long forms -/

def Flag.name : Flag → String
  | .noColor => "no-color"
  | .verbose => "verbose"
  | .allowUnrecognized => "allow-unrecognized"
  | .allowMultiple => "allow-multiple"
  | .help => "help"
  | .version => "version"

def Setting.name : Setting → String
  | .format => "format"
  | .mode => "mode"
  | .leading => "prefix"
  | .verb => "verb"

/-- One option as it is written out. -/
inductive Item where
  | raise (flag : Flag)
  | assign (setting : Setting) (value : String)
  deriving DecidableEq, Repr

namespace Item

/-- The word of the option. -/
def word : Item → String
  | raise flag => "--" ++ flag.name
  | assign setting value => "--" ++ setting.name ++ "=" ++ value

/-- What the word asks for. -/
def request : Item → Request
  | raise flag => { flags := [flag] }
  | assign setting value => { setting := some (setting, some value) }

end Item

/-- The first equals sign ends the name of a long form. -/
theorem Word.ofText_assigned {name : String} (h : '=' ∉ name.toList) (value : String) :
    ofText ("--" ++ name ++ "=" ++ value) = ofLong name.toList ('=' :: value.toList) := by
  have htext : ("--" ++ name ++ "=" ++ value).toList =
      '-' :: '-' :: (name.toList ++ '=' :: value.toList) := by
    simp [String.toList_append]
  have hname : ∀ c ∈ name.toList, (c ≠ '=') := fun c hc heq => h (heq ▸ hc)
  unfold ofText
  rw [htext]
  split
  · next heq => simp at heq
  · next heq =>
    cases heq
    rw [List.takeWhile_append_of_pos (by simpa using hname),
      List.dropWhile_append_of_pos (by simpa using hname)]
    simp
  · next hne heq => exact absurd (List.cons.inj (List.cons.inj heq).2).1.symm hne
  · next hnot _ => exact (hnot _ rfl).elim

theorem Word.ofText_word (item : Item) : ofText item.word = .request item.request := by
  cases item with
  | raise flag => cases flag <;> rfl
  | assign setting value =>
    have hname : '=' ∉ setting.name.toList := by cases setting <;> decide +kernel
    rw [Item.word, ofText_assigned hname]
    cases setting <;> simp [ofLong, Setting.name, long?, Item.request]

/-! ## All options -/

/-- The flag is on. Help and version are no options of a run. -/
def raises (options : Options) : Flag → Bool
  | .noColor => options.noColor
  | .verbose => options.verbose
  | .allowUnrecognized => options.allowUnrecognized
  | .allowMultiple => options.allowMultiple
  | .help | .version => false

/-- The flags that are on. -/
def raised (options : Options) : List Flag :=
  [.noColor, .verbose, .allowUnrecognized, .allowMultiple].filter (raises options)

/-- The long forms of all options. -/
def itemsOf (options : Options) : List Item :=
  (raised options).map .raise ++
    [.assign .format options.format.name, .assign .mode options.mode.name] ++
    options.prefixes.map (.assign .leading) ++ options.verbs.map (.assign .verb)

/-- The flag that the item raises. -/
def Item.flag? : Item → Option Flag
  | raise flag => some flag
  | assign _ _ => none

/-- The value that the item gives to the setting. -/
def Item.value? (setting : Setting) : Item → Option String
  | raise _ => none
  | assign other value => if other = setting then some value else none

def flagsOf (items : List Item) : List Flag := items.filterMap Item.flag?

def valuesOf (setting : Setting) (items : List Item) : List String :=
  items.filterMap (Item.value? setting)

/-- The items are the long forms of the options, in an order that keeps the prefixes in theirs and
the verbs in theirs. -/
structure Spells (options : Options) (items : List Item) : Prop where
  all : items.Perm (itemsOf options)
  prefixes : valuesOf .leading items = options.prefixes
  verbs : valuesOf .verb items = options.verbs

theorem mem_raised_iff (options : Options) (flag : Flag) :
    flag ∈ raised options ↔ raises options flag = true := by
  cases flag <;> simp [raised, raises]

theorem raised_nodup (options : Options) : (raised options).Nodup :=
  List.Pairwise.filter _ (by decide)

theorem flagsOf_append (items more : List Item) :
    flagsOf (items ++ more) = flagsOf items ++ flagsOf more :=
  List.filterMap_append

theorem valuesOf_append (setting : Setting) (items more : List Item) :
    valuesOf setting (items ++ more) = valuesOf setting items ++ valuesOf setting more :=
  List.filterMap_append

@[simp] theorem flagsOf_raise (flag : Flag) : flagsOf [.raise flag] = [flag] := rfl

@[simp] theorem flagsOf_assign (setting : Setting) (value : String) :
    flagsOf [.assign setting value] = [] := rfl

@[simp] theorem valuesOf_raise (setting : Setting) (flag : Flag) :
    valuesOf setting [.raise flag] = [] := rfl

@[simp] theorem valuesOf_assign (setting other : Setting) (value : String) :
    valuesOf setting [.assign other value] = if other = setting then [value] else [] := by
  unfold valuesOf
  by_cases h : other = setting <;> simp [Item.value?, h]

theorem flagsOf_map_assign (setting : Setting) (values : List String) :
    flagsOf (values.map (.assign setting)) = [] := by
  apply List.filterMap_eq_nil_iff.mpr
  simp [Item.flag?]

theorem flagsOf_itemsOf (options : Options) : flagsOf (itemsOf options) = raised options := by
  have hraised : flagsOf ((raised options).map .raise) = raised options := by
    simp [flagsOf, Item.flag?, Function.comp_def, List.filterMap_map]
  rw [itemsOf, flagsOf_append, flagsOf_append, flagsOf_append, hraised, flagsOf_map_assign,
    flagsOf_map_assign]
  simp [flagsOf, Item.flag?]

theorem valuesOf_itemsOf (options : Options) (setting : Setting) :
    valuesOf setting (itemsOf options) = match setting with
      | .format => [options.format.name]
      | .mode => [options.mode.name]
      | .leading => options.prefixes
      | .verb => options.verbs := by
  cases setting <;> simp [valuesOf, itemsOf, Item.value?, Function.comp_def, List.filterMap_map]

namespace Spells

variable {options : Options} {items more : List Item}

/-- A flag is written out when it is on, and only once. -/
theorem flags (h : Spells options items) : (flagsOf items).Perm (raised options) := by
  rw [← flagsOf_itemsOf]
  exact h.all.filterMap _

theorem mem_flags_iff (h : Spells options items) (flag : Flag) :
    flag ∈ flagsOf items ↔ raises options flag = true := by
  rw [h.flags.mem_iff, mem_raised_iff]

/-- A setting that has one value is written out once. -/
theorem single (h : Spells options items) {setting : Setting} {value : String}
    (hone : valuesOf setting (itemsOf options) = [value]) : valuesOf setting items = [value] := by
  have hvalues : (valuesOf setting items).Perm (valuesOf setting (itemsOf options)) :=
    h.all.filterMap _
  rw [hone] at hvalues
  exact List.perm_singleton.mp hvalues

theorem formats (h : Spells options items) : valuesOf .format items = [options.format.name] :=
  h.single (valuesOf_itemsOf options .format)

theorem modes (h : Spells options items) : valuesOf .mode items = [options.mode.name] :=
  h.single (valuesOf_itemsOf options .mode)

end Spells

/-! ## One option -/

/-- The draft that the items make. -/
def Draft.ofItems (items : List Item) : Draft where
  noColor := decide (.noColor ∈ flagsOf items)
  verbose := decide (.verbose ∈ flagsOf items)
  allowUnrecognized := decide (.allowUnrecognized ∈ flagsOf items)
  allowMultiple := decide (.allowMultiple ∈ flagsOf items)
  format := (valuesOf .format items).head?.bind Format.ofName?
  mode := (valuesOf .mode items).head?.bind Mode.ofName?
  prefixes := valuesOf .leading items
  verbs := valuesOf .verb items

/-- The item may come behind the items: no option but a literal comes twice, and a format or a mode
has a name. -/
def Fresh (items : List Item) : Item → Prop
  | .raise flag => flag ∉ flagsOf items ∧ flag ≠ .help ∧ flag ≠ .version
  | .assign .format value => valuesOf .format items = [] ∧ ∃ format, value = Format.name format
  | .assign .mode value => valuesOf .mode items = [] ∧ ∃ mode, value = Mode.name mode
  | .assign .leading _ | .assign .verb _ => True

theorem ofName?_format (format : Format) : Format.ofName? format.name = some format := by
  cases format <;> rfl

theorem ofName?_mode (mode : Mode) : Mode.ofName? mode.name = some mode := by
  cases mode <;> rfl

/-- A word for a fresh option leaves the draft of all options so far. -/
theorem step_word {items : List Item} {item : Item} (h : Fresh items item) :
    State.step (.reading (Draft.ofItems items) .nothing) item.word =
      .ok (.reading (Draft.ofItems (items ++ [item])) .nothing) := by
  rw [State.step, Word.ofText_word]
  change State.obey (Draft.ofItems items) item.request = _
  rcases item with flag | ⟨setting, value⟩
  · obtain ⟨hnot, hhelp, hversion⟩ := h
    have hraise : (Draft.ofItems items).raise flag =
        .ok (Draft.ofItems (items ++ [.raise flag])) := by
      cases flag <;>
        simp_all [Draft.raise, Draft.ofItems, flagsOf_append, valuesOf_append]
    rw [State.obey, Item.request, Draft.raiseAll, hraise]
    rfl
  · have hassign : (Draft.ofItems items).assign setting value =
        .ok (Draft.ofItems (items ++ [.assign setting value])) := by
      cases setting with
      | format =>
        obtain ⟨hnone, format, rfl⟩ := h
        simp [Draft.assign, Draft.ofItems, flagsOf_append, valuesOf_append, hnone, ofName?_format]
      | mode =>
        obtain ⟨hnone, mode, rfl⟩ := h
        simp [Draft.assign, Draft.ofItems, flagsOf_append, valuesOf_append, hnone, ofName?_mode]
      | leading => simp [Draft.assign, Draft.ofItems, flagsOf_append, valuesOf_append]
      | verb => simp [Draft.assign, Draft.ofItems, flagsOf_append, valuesOf_append]
    rw [State.obey, Item.request, Draft.raiseAll]
    change ((Draft.ofItems items).assign setting value).map _ = _
    rw [hassign]
    rfl

/-! ## All options, one after the other -/

namespace Spells

variable {options : Options} {items more : List Item}

theorem fresh {item : Item} (h : Spells options (items ++ ([item] ++ more))) :
    Fresh items item := by
  rcases item with flag | ⟨setting, value⟩
  · have hon := h.mem_flags_iff flag
    have honce := h.flags.nodup_iff.mpr (raised_nodup options)
    rw [flagsOf_append, flagsOf_append, flagsOf_raise] at hon honce
    replace hon := hon.mp (by simp)
    rw [List.nodup_append] at honce
    refine ⟨fun hmem => honce.2.2 flag hmem flag (by simp) rfl, ?_, ?_⟩
    · rintro rfl
      cases hon
    · rintro rfl
      cases hon
  · cases setting with
    | format =>
      have honly := h.formats
      rw [valuesOf_append, valuesOf_append, valuesOf_assign, if_pos rfl] at honly
      obtain ⟨hnone, hvalue⟩ := first_of_single honly
      exact ⟨hnone, options.format, hvalue⟩
    | mode =>
      have honly := h.modes
      rw [valuesOf_append, valuesOf_append, valuesOf_assign, if_pos rfl] at honly
      obtain ⟨hnone, hvalue⟩ := first_of_single honly
      exact ⟨hnone, options.mode, hvalue⟩
    | leading => trivial
    | verb => trivial

/-- The words of the first options leave their draft. -/
theorem steps_words (h : Spells options (items ++ more)) :
    start.steps (items.map Item.word) = .ok (.reading (Draft.ofItems items) .nothing) := by
  -- each option is fresh behind all options in front of it, so the run is split from its end
  induction items using List.reverseRecOn generalizing more with
  | nil => rfl
  | append_singleton items item ih =>
    rw [List.append_assoc] at h
    rw [List.map_append, List.map_singleton, State.steps_concat_eq_ok_iff]
    exact ⟨_, ih h, step_word h.fresh⟩

theorem finish_ofItems (h : Spells options items) (tokens : List String) :
    (Draft.ofItems items).finish tokens = { options with tokens := tokens } := by
  simp [Draft.finish, Draft.ofItems, h.formats, h.modes, h.prefixes, h.verbs, h.mem_flags_iff,
    raises, ofName?_format, ofName?_mode]

/-- The long forms, two hyphens and tokens are read as the options with these tokens. -/
theorem read_words (h : Spells options items) (tokens : List String) :
    read (items.map Item.word ++ ["--"] ++ tokens) = .ok { options with tokens := tokens } := by
  have hwords : start.steps (items.map Item.word ++ ["--"]) =
      .ok (.closed (Draft.ofItems items) []) := by
    rw [← List.append_nil items] at h
    exact State.steps_concat_eq_ok_iff.mpr ⟨_, h.steps_words, rfl⟩
  rw [read_append_of_closed hwords, List.nil_append, h.finish_ofItems]

end Spells

/-! ## Options that go together -/

/-- A generic table without a literal, or literals or leniency for a table that is not generic. -/
def AtOdds (options : Options) : Prop :=
  if options.mode = .generic then options.prefixes = [] ∧ options.verbs = []
  else options.prefixes ≠ [] ∨ options.verbs ≠ [] ∨ options.allowUnrecognized = true ∨
    options.allowMultiple = true

theorem check_of_atOdds {options : Options} (h : AtOdds options) :
    ∃ fault, options.check = .error fault ∧ fault.kind = .options := by
  by_cases hmode : options.mode = .generic
  · rw [AtOdds, if_pos hmode] at h
    refine ⟨.genericWithoutTable, ?_, rfl⟩
    simp [Options.check, Options.fault?, Options.namesTable, hmode, h]
  · rw [AtOdds, if_neg hmode] at h
    refine ⟨.tableOutsideGeneric, ?_, rfl⟩
    cases hother : options.mode <;>
      simp_all [Options.check, Options.fault?, Options.namesTable, or_assoc]

theorem check_of_not_atOdds {options : Options} (h : ¬ AtOdds options) :
    options.check = .ok options := by
  by_cases hmode : options.mode = .generic
  · rw [AtOdds, if_pos hmode, not_and_or] at h
    simp [Options.check, Options.fault?, Options.namesTable, hmode, h]
  · rw [AtOdds, if_neg hmode] at h
    cases hother : options.mode <;>
      simp_all [Options.check, Options.fault?, Options.namesTable]

/-! ## The law -/

/-- All options have a spelling. When the long forms of the flags that are on, of the format and the
mode, of each prefix and of each verb stand in any order that keeps the prefixes and the verbs in
theirs, and two hyphens and the tokens stand behind them, then exactly the options are read. They
are taken as they are, unless they are at odds: a generic table without a literal, or literals or
leniency where the table is not generic. -/
theorem options_are_read_as_they_are_written (options : Options) (items : List Item)
    (h : Spells options items) :
    read (items.map Item.word ++ ["--"] ++ options.tokens) = .ok options ∧
      (¬ AtOdds options → options.check = .ok options) ∧
      (AtOdds options → ∃ fault, options.check = .error fault ∧ fault.kind = .options) :=
  ⟨h.read_words options.tokens, check_of_not_atOdds, check_of_atOdds⟩

/-- Of literals between the flags. One is a hyphen, one has an equals sign, and one is empty. -/
theorem literals_between_flags_are_read :
    Spells
        { verbose := true, format := .json, mode := .generic, prefixes := ["/a:", "-"],
          verbs := ["go=1", ""], allowMultiple := true, tokens := ["--", "-n"] }
        [.assign .verb "go=1", .assign .leading "/a:", .raise .allowMultiple,
          .assign .mode "generic", .assign .leading "-", .raise .verbose, .assign .verb "",
          .assign .format "json"] ∧
      read ["--verb=go=1", "--prefix=/a:", "--allow-multiple", "--mode=generic", "--prefix=-",
          "--verbose", "--verb=", "--format=json", "--", "--", "-n"] =
        .ok { verbose := true, format := .json, mode := .generic, prefixes := ["/a:", "-"],
              verbs := ["go=1", ""], allowMultiple := true, tokens := ["--", "-n"] } := by
  have hspells : Spells
      { verbose := true, format := .json, mode := .generic, prefixes := ["/a:", "-"],
        verbs := ["go=1", ""], allowMultiple := true, tokens := ["--", "-n"] }
      [.assign .verb "go=1", .assign .leading "/a:", .raise .allowMultiple,
        .assign .mode "generic", .assign .leading "-", .raise .verbose, .assign .verb "",
        .assign .format "json"] :=
    ⟨by decide +kernel, by decide +kernel, by decide +kernel⟩
  exact ⟨hspells, (options_are_read_as_they_are_written _ _ hspells).1⟩

end CommandLine

end ArgTable
