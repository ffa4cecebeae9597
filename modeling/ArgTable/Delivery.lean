-- Writing to a destination that may run full. A destination takes a fixed number of bytes in
-- all. Of a text that does not fit, it takes the part that does, and nothing is written after
-- that.

namespace ArgTable

/-- The bytes of a text. -/
def bytesOf (text : String) : List UInt8 := text.toList.flatMap String.utf8EncodeChar

/-- What a destination took, and whether that is everything. -/
structure Delivery where
  accepted : List UInt8
  complete : Bool
  deriving DecidableEq, Repr

namespace Delivery

/-- Writes the texts one after the other to a destination with this much room, or with room
for everything. -/
def deliver : Option Nat → List String → Delivery
  | _, [] => ⟨[], true⟩
  | none, text :: texts =>
    let rest := deliver none texts
    ⟨bytesOf text ++ rest.accepted, rest.complete⟩
  | some room, text :: texts =>
    let bytes := bytesOf text
    if bytes.length ≤ room then
      let rest := deliver (some (room - bytes.length)) texts
      ⟨bytes ++ rest.accepted, rest.complete⟩
    else ⟨bytes.take room, false⟩

end Delivery

end ArgTable
