import LiveService.Json.Literal
import LiveService.Json.Numeral
import LiveService.Json.Printer
import LiveService.Json.Reader

/-!
Typed values in documents.  A codec reads a value off a `Node`, reporting the first error in document
order, and writes it as a `Json`.  Free values nest only so deep: `room` counts the levels left.
-/

namespace LiveService

open Json

structure Codec (Value : Type) where
  read : Nat → Node → Except DocumentError Value
  write : Value → Json

namespace Json

/-- How many arrays and objects may stand inside each other. -/
def nestingLimit : Nat := 127

mutual

def Node.skip : Node → Except DocumentError Unit
  | .absent => .error .truncated
  | .broken fault => .error (.ofFault fault)
  | .unfinished => .error .malformed
  | .null => .ok ()
  | .bool _ => .ok ()
  | .number _ => .ok ()
  | .text literal =>
    match literal.fault with
    | some fault => .error (.ofFault fault)
    | none => .ok ()
  | .array items => items.skip
  | .object members => members.skip

def Items.skip : Items → Except DocumentError Unit
  | .close => .ok ()
  | .stop fault => .error (.ofFault fault)
  | .item node rest =>
    match node.skip with
    | .error error => .error error
    | .ok () => rest.skip

def Members.skip : Members → Except DocumentError Unit
  | .close => .ok ()
  | .stop fault => .error (.ofFault fault)
  | .dangling fault => .error (.ofFault fault)
  | .member key value rest =>
    match key.fault with
    | some fault => .error (.ofFault fault)
    | none =>
      match value.skip with
      | .error error => .error error
      | .ok () => rest.skip

end

def Numeral.read (numeral : Numeral) : Except DocumentError Number :=
  match numeral.number? with
  | some value => .ok value
  | none => .error .malformed

def Node.found : Node → Except DocumentError Found
  | .absent => .error .truncated
  | .broken fault => .error (.ofFault fault)
  | .unfinished => .error .truncated
  | .null => .ok .null
  | .bool value => .ok (.bool value)
  | .number numeral => numeral.read.map Found.number
  | .text literal => literal.text.map Found.text
  | .array _ => .ok .sequence
  | .object _ => .ok .map

def Node.expecting {Value : Type} (expected : String) (node : Node) : Except DocumentError Value :=
  match node.found with
  | .ok found => .error (.mismatch (.invalidType found expected))
  | .error error => .error error

mutual

def readAny : Nat → Node → Except DocumentError Json
  | _, .null => .ok .null
  | _, .bool value => .ok (.bool value)
  | _, .number numeral => numeral.read.map Json.number
  | _, .text literal => literal.text.map Json.text
  | 0, .array _ => .error .malformed
  | room + 1, .array items => (readAnyItems room items).map Json.array
  | 0, .object _ => .error .malformed
  | room + 1, .object members => (readAnyMembers room [] members).map Json.object
  | _, .absent => .error .truncated
  | _, .broken fault => .error (.ofFault fault)
  | _, .unfinished => .error .truncated

def readAnyItems (room : Nat) : Items → Except DocumentError (List Json)
  | .close => .ok []
  | .stop fault => .error (.ofFault fault)
  | .item node rest =>
    match readAny room node with
    | .error error => .error error
    | .ok value => (readAnyItems room rest).map (value :: ·)

def readAnyMembers (room : Nat) (held : List (String × Json)) :
    Members → Except DocumentError (List (String × Json))
  | .close => .ok held
  | .stop fault => .error (.ofFault fault)
  | .dangling fault => .error (.ofFault fault)
  | .member key node rest =>
    match key.text with
    | .error error => .error error
    | .ok key =>
      match readAny room node with
      | .error error => .error error
      | .ok value => readAnyMembers room (insert key value held) rest

end

end Json

namespace Codec

def any : Codec Json := ⟨readAny, id⟩

def text : Codec String where
  read _ node :=
    match node with
    | .text literal => literal.text
    | other => other.expecting "a string"
  write := .text

def flag : Codec Bool where
  read _ node :=
    match node with
    | .bool value => .ok value
    | other => other.expecting "a boolean"
  write := .bool

def readRange (expected : String) (least greatest : Int) (node : Node) : Except DocumentError Int :=
  match node with
  | .number numeral =>
    match numeral.read with
    | .error error => .error error
    | .ok (.integer value) =>
      if least ≤ value && value ≤ greatest then .ok value
      else .error (.mismatch (.invalidValue (.number (.integer value)) expected))
    | .ok (.float value) => .error (.mismatch (.invalidType (.number (.float value)) expected))
  | other => other.expecting expected

def word32 : Codec UInt32 where
  read _ node := (readRange "u32" 0 (UInt32.size - 1) node).map fun value => value.toNat.toUInt32
  write value := .integer value.toNat

def word64 : Codec UInt64 where
  read _ node := (readRange "u64" 0 (UInt64.size - 1) node).map fun value => value.toNat.toUInt64
  write value := .integer value.toNat

def signed64 : Codec Int64 where
  read _ node :=
    (readRange "i64" Int64.minValue.toInt Int64.maxValue.toInt node).map Int64.ofInt
  write value := .integer value.toInt

/-- Numbers of double precision; a whole number counts as one, and what is not finite is lost. -/
def double : Codec Float where
  read _ node :=
    match node with
    | .number numeral =>
      numeral.read.map fun number =>
        match number with
        | .integer value => Float.ofInt value
        | .float value => value
    | other => other.expecting "f64"
  write value := .number (.float value)

def optional {Value : Type} (codec : Codec Value) : Codec (Option Value) where
  read room node :=
    match node with
    | .null => .ok none
    | other => (codec.read room other).map some
  write
    | none => .null
    | some value => codec.write value

def along {Value Other : Type} (codec : Codec Value) (into : Value → Other) (back : Other → Value) :
    Codec Other where
  read room node := (codec.read room node).map into
  write other := codec.write (back other)

end Codec

end LiveService
