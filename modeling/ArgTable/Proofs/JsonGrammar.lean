-- The grammar of JSON texts, said apart from the writer. A text is read from the left: white
-- space is skipped, a mark says what comes, and a quoted text is read character by character
-- with its escapes. Documents with numbers are left out, since no report has one. A text spells
-- one document at most.
import ArgTable.Json

namespace ArgTable.Json

/-! ## Quoted texts -/

/-- The character that a letter stands for behind a backslash. -/
def shortEscape? (c : Char) : Option Char :=
  if c = '"' || c = '\\' || c = '/' then some c
  else if c = 'b' then some '\x08'
  else if c = 'f' then some '\x0c'
  else if c = 'n' then some '\n'
  else if c = 'r' then some '\r'
  else if c = 't' then some '\t'
  else none

/-- The value of a hexadecimal digit, in either letter case. -/
def hexValue? (c : Char) : Option Nat :=
  if c.isDigit then some (c.toNat - '0'.toNat)
  else if 'a' ≤ c ∧ c ≤ 'f' then some (c.toNat - 'a'.toNat + 10)
  else if 'A' ≤ c ∧ c ≤ 'F' then some (c.toNat - 'A'.toNat + 10)
  else none

/-- The number of four hexadecimal digits, and what is behind them. -/
def readUnit? : List Char → Option (Nat × List Char)
  | first :: second :: third :: fourth :: behind => do
    let first ← hexValue? first
    let second ← hexValue? second
    let third ← hexValue? third
    let fourth ← hexValue? fourth
    return (((first * 16 + second) * 16 + third) * 16 + fourth, behind)
  | _ => none

/-- The character of a number, or of a number from the upper half of the surrogates with one
from the lower half in an escape of its own. -/
def readCodePoint? (cs : List Char) : Option (Char × List Char) := do
  let (unit, behind) ← readUnit? cs
  if unit < 0xD800 ∨ 0xDFFF < unit then
    return (Char.ofNat unit, behind)
  else if unit < 0xDC00 then
    match behind with
    | '\\' :: 'u' :: second =>
      let (low, behind) ← readUnit? second
      if 0xDC00 ≤ low ∧ low ≤ 0xDFFF then
        return (Char.ofNat (0x10000 + (unit - 0xD800) * 0x400 + (low - 0xDC00)), behind)
      else none
    | _ => none
  else none

/-- The first character inside the quotes, and what is behind it. The closing quote is none,
and neither is a raw control character. -/
def readChar? : List Char → Option (Char × List Char)
  | [] => none
  | c :: cs =>
    if c = '\\' then
      match cs with
      | [] => none
      | letter :: behind =>
        if letter = 'u' then readCodePoint? behind
        else (shortEscape? letter).map fun c => (c, behind)
    else if c = '"' ∨ c.toNat < 0x20 then none
    else some (c, cs)

/-- The text up to the closing quote, and what is behind the quote. -/
inductive ReadsText : List Char → List Char → List Char → Prop
  | close (rest : List Char) : ReadsText ('"' :: rest) [] rest
  | char {cs behind text rest : List Char} {c : Char} (hfirst : readChar? cs = some (c, behind))
      (hmore : ReadsText behind text rest) : ReadsText cs (c :: text) rest

/-! ## Documents -/

/-- The characters that may stand between the marks. -/
def isSpace (c : Char) : Bool := c = ' ' || c = '\t' || c = '\n' || c = '\r'

/-- What is behind the white space. -/
def skip (cs : List Char) : List Char := cs.dropWhile isSpace

/-- The places of a document. After the mark that opens a list the items are read, and after
an item more of them. Records are read alike. -/
inductive Place where
  | value
  | items
  | moreItems
  | fields
  | moreFields

/-- What is read at a place. -/
abbrev Place.Content : Place → Type
  | value => Json
  | items | moreItems => List Json
  | fields | moreFields => List (String × Json)

/-- The text starts with a name and a colon. -/
def ReadsName (cs : List Char) (name : String) (rest : List Char) : Prop :=
  ∃ inside behind, skip cs = '"' :: inside ∧ ReadsText inside name.toList behind ∧
    skip behind = ':' :: rest

/-- What a text holds at a place, and what is behind that. -/
inductive Reads : (place : Place) → List Char → place.Content → List Char → Prop
  | null {cs rest : List Char} (hmark : skip cs = 'n' :: 'u' :: 'l' :: 'l' :: rest) :
      Reads .value cs null rest
  | true {cs rest : List Char} (hmark : skip cs = 't' :: 'r' :: 'u' :: 'e' :: rest) :
      Reads .value cs (bool true) rest
  | false {cs rest : List Char} (hmark : skip cs = 'f' :: 'a' :: 'l' :: 's' :: 'e' :: rest) :
      Reads .value cs (bool false) rest
  | text {cs inside rest : List Char} {value : String} (hmark : skip cs = '"' :: inside)
      (htext : ReadsText inside value.toList rest) : Reads .value cs (text value) rest
  | list {cs inside rest : List Char} {items : List Json} (hmark : skip cs = '[' :: inside)
      (hitems : Reads .items inside items rest) : Reads .value cs (list items) rest
  | record {cs inside rest : List Char} {fields : List (String × Json)}
      (hmark : skip cs = '\x7b' :: inside) (hfields : Reads .fields inside fields rest) :
      Reads .value cs (record fields) rest
  | noItems {cs rest : List Char} (hmark : skip cs = ']' :: rest) : Reads .items cs [] rest
  | items {cs behind rest : List Char} {item : Json} {items : List Json}
      (hitem : Reads .value cs item behind) (hmore : Reads .moreItems behind items rest) :
      Reads .items cs (item :: items) rest
  | endItems {cs rest : List Char} (hmark : skip cs = ']' :: rest) : Reads .moreItems cs [] rest
  | moreItems {cs inside behind rest : List Char} {item : Json} {items : List Json}
      (hmark : skip cs = ',' :: inside) (hitem : Reads .value inside item behind)
      (hmore : Reads .moreItems behind items rest) : Reads .moreItems cs (item :: items) rest
  | noFields {cs rest : List Char} (hmark : skip cs = '\x7d' :: rest) : Reads .fields cs [] rest
  | fields {cs inside behind rest : List Char} {name : String} {value : Json}
      {fields : List (String × Json)} (hname : ReadsName cs name inside)
      (hvalue : Reads .value inside value behind) (hmore : Reads .moreFields behind fields rest) :
      Reads .fields cs ((name, value) :: fields) rest
  | endFields {cs rest : List Char} (hmark : skip cs = '\x7d' :: rest) :
      Reads .moreFields cs [] rest
  | moreFields {cs comma inside behind rest : List Char} {name : String} {value : Json}
      {fields : List (String × Json)} (hmark : skip cs = ',' :: comma)
      (hname : ReadsName comma name inside) (hvalue : Reads .value inside value behind)
      (hmore : Reads .moreFields behind fields rest) :
      Reads .moreFields cs ((name, value) :: fields) rest

/-- The whole text is this document, with white space around it. -/
def Spells (text : String) (document : Json) : Prop :=
  ∃ rest, Reads .value text.toList document rest ∧ skip rest = []

/-! ## One reading -/

theorem readChar?_quote (rest : List Char) : readChar? ('"' :: rest) = none := rfl

theorem ReadsText.unique {cs text rest text' rest' : List Char} (h : ReadsText cs text rest)
    (h' : ReadsText cs text' rest') : text = text' ∧ rest = rest' := by
  induction h generalizing text' with
  | close rest =>
    cases h' with
    | close => exact ⟨rfl, rfl⟩
    | char hfirst' =>
      rw [readChar?_quote] at hfirst'
      cases hfirst'
  | char hfirst _ ih =>
    cases h' with
    | close =>
      rw [readChar?_quote] at hfirst
      cases hfirst
    | char hfirst' hmore' =>
      rw [hfirst] at hfirst'
      cases hfirst'
      obtain ⟨rfl, rfl⟩ := ih hmore'
      exact ⟨rfl, rfl⟩

theorem ReadsName.unique {cs rest rest' : List Char} {name name' : String}
    (h : ReadsName cs name rest) (h' : ReadsName cs name' rest') :
    name = name' ∧ rest = rest' := by
  obtain ⟨inside, behind, hquote, htext, hcolon⟩ := h
  obtain ⟨inside', behind', hquote', htext', hcolon'⟩ := h'
  rw [hquote] at hquote'
  cases hquote'
  obtain ⟨hname, rfl⟩ := htext.unique htext'
  rw [hcolon] at hcolon'
  cases hcolon'
  exact ⟨String.toList_inj.mp hname, rfl⟩

theorem ReadsName.skip_ne {cs rest more : List Char} {name : String} {mark : Char}
    (h : ReadsName cs name rest) (hmark : mark ≠ '"') : skip cs ≠ mark :: more := by
  obtain ⟨inside, behind, hquote, -, -⟩ := h
  rw [hquote]
  intro heq
  exact hmark (List.cons.inj heq).1.symm

/-- No value starts with the mark that closes a list. -/
theorem Reads.skip_ne {cs rest more : List Char} {document : Json}
    (h : Reads .value cs document rest) : skip cs ≠ ']' :: more := by
  cases h with
  | _ hmark => simp [hmark]

/-- What is behind a mark is settled by the text. -/
theorem behind_mark_eq {cs inside inside' : List Char} {mark : Char}
    (h : skip cs = mark :: inside) (h' : skip cs = mark :: inside') : inside = inside' :=
  (List.cons.inj (h.symm.trans h')).2

/-- A text holds one thing at a place. Each mark opens one kind of thing, so two readings take
the same way. -/
theorem Reads.unique {place : Place} {cs rest rest' : List Char} {content content' : place.Content}
    (h : Reads place cs content rest) (h' : Reads place cs content' rest') :
    content = content' ∧ rest = rest' := by
  induction h generalizing rest' with
  | null hmark =>
    cases h' with
    | null hmark' => simpa [hmark] using hmark'
    | _ hmark' => simp [hmark] at hmark'
  | true hmark =>
    cases h' with
    | true hmark' => simpa [hmark] using hmark'
    | _ hmark' => simp [hmark] at hmark'
  | false hmark =>
    cases h' with
    | false hmark' => simpa [hmark] using hmark'
    | _ hmark' => simp [hmark] at hmark'
  | text hmark htext =>
    cases h' with
    | text hmark' htext' =>
      obtain rfl := behind_mark_eq hmark hmark'
      obtain ⟨hvalue, rfl⟩ := htext.unique htext'
      exact ⟨congrArg Json.text (String.toList_inj.mp hvalue), rfl⟩
    | _ hmark' => simp [hmark] at hmark'
  | list hmark _ ih =>
    cases h' with
    | list hmark' hitems' =>
      obtain rfl := behind_mark_eq hmark hmark'
      obtain ⟨rfl, rfl⟩ := ih hitems'
      exact ⟨rfl, rfl⟩
    | _ hmark' => simp [hmark] at hmark'
  | record hmark _ ih =>
    cases h' with
    | record hmark' hfields' =>
      obtain rfl := behind_mark_eq hmark hmark'
      obtain ⟨rfl, rfl⟩ := ih hfields'
      exact ⟨rfl, rfl⟩
    | _ hmark' => simp [hmark] at hmark'
  | noItems hmark =>
    cases h' with
    | noItems hmark' => exact ⟨rfl, behind_mark_eq hmark hmark'⟩
    | items hitem' _ => exact absurd hmark hitem'.skip_ne
  | items hitem _ ihitem ihmore =>
    cases h' with
    | noItems hmark' => exact absurd hmark' hitem.skip_ne
    | items hitem' hmore' =>
      obtain ⟨rfl, rfl⟩ := ihitem hitem'
      obtain ⟨rfl, rfl⟩ := ihmore hmore'
      exact ⟨rfl, rfl⟩
  | endItems hmark =>
    cases h' with
    | endItems hmark' => exact ⟨rfl, behind_mark_eq hmark hmark'⟩
    | moreItems hmark' => simp [hmark] at hmark'
  | moreItems hmark _ _ ihitem ihmore =>
    cases h' with
    | endItems hmark' => simp [hmark] at hmark'
    | moreItems hmark' hitem' hmore' =>
      obtain rfl := behind_mark_eq hmark hmark'
      obtain ⟨rfl, rfl⟩ := ihitem hitem'
      obtain ⟨rfl, rfl⟩ := ihmore hmore'
      exact ⟨rfl, rfl⟩
  | noFields hmark =>
    cases h' with
    | noFields hmark' => exact ⟨rfl, behind_mark_eq hmark hmark'⟩
    | fields hname' => exact absurd hmark (hname'.skip_ne (by decide))
  | fields hname _ _ ihvalue ihmore =>
    cases h' with
    | noFields hmark' => exact absurd hmark' (hname.skip_ne (by decide))
    | fields hname' hvalue' hmore' =>
      obtain ⟨rfl, rfl⟩ := hname.unique hname'
      obtain ⟨rfl, rfl⟩ := ihvalue hvalue'
      obtain ⟨rfl, rfl⟩ := ihmore hmore'
      exact ⟨rfl, rfl⟩
  | endFields hmark =>
    cases h' with
    | endFields hmark' => exact ⟨rfl, behind_mark_eq hmark hmark'⟩
    | moreFields hmark' => simp [hmark] at hmark'
  | moreFields hmark hname _ _ ihvalue ihmore =>
    cases h' with
    | endFields hmark' => simp [hmark] at hmark'
    | moreFields hmark' hname' hvalue' hmore' =>
      obtain rfl := behind_mark_eq hmark hmark'
      obtain ⟨rfl, rfl⟩ := hname.unique hname'
      obtain ⟨rfl, rfl⟩ := ihvalue hvalue'
      obtain ⟨rfl, rfl⟩ := ihmore hmore'
      exact ⟨rfl, rfl⟩

/-- A text spells one document at most. -/
theorem Spells.unique {text : String} {document other : Json} (h : Spells text document)
    (h' : Spells text other) : document = other := by
  obtain ⟨rest, hreads, -⟩ := h
  obtain ⟨rest', hreads', -⟩ := h'
  exact (hreads.unique hreads').1

end ArgTable.Json
