/-!
# Octets

Files and streams carry bytes. `Octets` is a text each of whose characters stands
for one byte, so that the operations on texts serve for bytes too, and what is
not valid as a text can be carried along.
-/

namespace Overseer

/-- A text each of whose characters stands for one byte. -/
abbrev Octets := String

namespace Octets

def ofBytes (bytes : ByteArray) : Octets :=
  String.ofList (bytes.toList.map fun byte => Char.ofNat byte.toNat)

def toBytes (octets : Octets) : ByteArray :=
  ⟨(octets.toList.map fun c => UInt8.ofNat c.toNat).toArray⟩

/-- The bytes that a text is kept as. -/
def ofText (text : String) : Octets := ofBytes text.toUTF8

/-- The text that the bytes are kept for; none if they are not valid as one. -/
def toText? (octets : Octets) : Option String := String.fromUTF8? octets.toBytes

/-- The lines of a text, without their ends. -/
def lines (octets : Octets) : List Octets :=
  let parts := octets.splitOn "\n"
  if parts.getLast? = some "" then parts.dropLast else parts

/-- Whether one text stands before another in the order of their bytes. -/
def isBefore (left right : Octets) : Bool := left < right

end Octets

end Overseer
