import LiveService.Decimal.Floating
import LiveService.Json.Basic

/-!
Documents as text.  A layout says what stands between the entries of an array or object; the words
and their order do not depend on it.
-/

namespace LiveService.Json

structure Layout where
  lead : Nat → Bytes
  colon : Bytes

def Layout.indented : Layout := ⟨fun depth => 0x0a :: List.replicate depth 0x09, [0x3a, 0x20]⟩

def Layout.compact : Layout := ⟨fun _ => [], [0x3a]⟩

def Layout.entries (layout : Layout) (depth : Nat) : List Bytes → Bytes
  | [] => []
  | [entry] => layout.lead depth ++ entry
  | entry :: rest => layout.lead depth ++ entry ++ 0x2c :: layout.entries depth rest

def Layout.enclosed (layout : Layout) (depth : Nat) (first last : UInt8) (entries : List Bytes) :
    Bytes :=
  if entries.isEmpty then [first, last]
  else first :: layout.entries (depth + 1) entries ++ layout.lead depth ++ [last]

def hexDigit (value : Nat) : UInt8 := if value < 10 then (0x30 + value).toUInt8 else (0x57 + value).toUInt8

def escaped (octet : UInt8) : Bytes :=
  if octet == 0x22 then [0x5c, 0x22]
  else if octet == 0x5c then [0x5c, 0x5c]
  else if octet == 0x08 then [0x5c, 0x62]
  else if octet == 0x09 then [0x5c, 0x74]
  else if octet == 0x0a then [0x5c, 0x6e]
  else if octet == 0x0c then [0x5c, 0x66]
  else if octet == 0x0d then [0x5c, 0x72]
  else if octet < 0x20 then
    [0x5c, 0x75, 0x30, 0x30, hexDigit (octet.toNat / 16), hexDigit (octet.toNat % 16)]
  else [octet]

def writeText (text : String) : Bytes := 0x22 :: (Text.bytes text).flatMap escaped ++ [0x22]

def digits (value : Nat) : Bytes := (Nat.toDigits 10 value).map Char.toUInt8

def writeInteger (value : Int) : Bytes :=
  if value < 0 then 0x2d :: digits value.natAbs else digits value.natAbs

/-- What is no finite number is written as `null`. -/
def writeNumber : Number → Bytes
  | .integer value => writeInteger value
  | .float value =>
    Text.bytes (if value.isFinite then Decimal.documentStyle.text value else "null")

mutual

def write (layout : Layout) (depth : Nat) : Json → Bytes
  | .null => Text.bytes "null"
  | .bool value => Text.bytes (if value then "true" else "false")
  | .number value => writeNumber value
  | .text value => writeText value
  | .array items => layout.enclosed depth 0x5b 0x5d (writeItems layout (depth + 1) items)
  | .object members => layout.enclosed depth 0x7b 0x7d (writeMembers layout (depth + 1) members)

def writeItems (layout : Layout) (depth : Nat) : List Json → List Bytes
  | [] => []
  | item :: rest => write layout depth item :: writeItems layout depth rest

def writeMembers (layout : Layout) (depth : Nat) : List (String × Json) → List Bytes
  | [] => []
  | (key, value) :: rest =>
      (writeText key ++ layout.colon ++ write layout depth value) ::
        writeMembers layout depth rest

end

def fileText (document : Json) : Bytes := write .indented 0 document ++ [0x0a]

def compactText (document : Json) : Bytes := write .compact 0 document

end LiveService.Json
