/-!
Texts and the bytes that spell them.  `ofBytes?` accepts exactly the well-formed byte sequences, so
a text survives being written as bytes.
-/

namespace LiveService

abbrev Bytes := List UInt8

namespace Text

def bytes (text : String) : Bytes := text.toByteArray.data.toList

def ofBytes? (octets : Bytes) : Option String := String.fromUTF8? ⟨octets.toArray⟩

theorem ofBytes?_bytes (text : String) : ofBytes? (bytes text) = some text := by
  simp [ofBytes?, bytes, String.fromUTF8?, String.fromUTF8, text.isValidUTF8]

/-- White space of the ASCII range: tab, line feed, form feed, carriage return and space. -/
def isAsciiBlank (octet : UInt8) : Bool :=
  octet == 0x20 || octet == 0x09 || octet == 0x0a || octet == 0x0c || octet == 0x0d

def decimal (number : Nat) : String := String.ofList (Nat.toDigits 10 number)

def hexadecimal (number : Nat) : String := String.ofList (Nat.toDigits 16 number)

def hexValue (char : Char) : Nat :=
  if char.isDigit then char.toNat - 0x30 else char.toNat - 0x57

def ofHexPairs : List Char → Bytes
  | high :: low :: rest => (hexValue high * 16 + hexValue low).toUInt8 :: ofHexPairs rest
  | _ => []

def hexPairs (octets : Bytes) : List Char :=
  octets.flatMap fun octet =>
    [Nat.digitChar (octet.toNat / 16), Nat.digitChar (octet.toNat % 16)]

end Text

end LiveService
