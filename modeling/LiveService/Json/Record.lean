import LiveService.Json.Codec

/-!
Records.  A record reads from an object, by the names of its fields in any order, or from an array,
by their order.  Unknown members are passed over; of a known one there may be only one.
-/

namespace LiveService

open Json

structure Field (Value : Type) where
  name : String
  codec : Codec Value
  whenMissing : Option Value
  whenShort : Option Value
  shown : Value → Bool

namespace Field

variable {Value : Type}

def required (name : String) (codec : Codec Value) : Field Value :=
  ⟨name, codec, none, none, fun _ => true⟩

def withDefault (name : String) (codec : Codec Value) (value : Value) : Field Value :=
  ⟨name, codec, some value, some value, fun _ => true⟩

def optional (name : String) (codec : Codec Value) : Field (Option Value) :=
  ⟨name, codec.optional, some none, none, fun _ => true⟩

def whenPresent (name : String) (codec : Codec Value) : Field (Option Value) :=
  ⟨name, codec.optional, some none, none, Option.isSome⟩

end Field

/-- The fields of a record in declaration order, with the types of the values that they hold and of
the values read so far. -/
inductive Fields : Type → Type → Type 1 where
  | nil : Fields Unit Unit
  | cons {Value Values Held : Type} (field : Field Value) (rest : Fields Values Held) :
      Fields (Value × Values) (Option Value × Held)

namespace Fields

variable {Values Held : Type}

def count {Values Held : Type} : Fields Values Held → Nat
  | .nil => 0
  | .cons _ rest => rest.count + 1

def start {Values Held : Type} : Fields Values Held → Held
  | .nil => ()
  | .cons _ rest => (none, rest.start)

def put {Values Held : Type} (room : Nat) (name : String) (node : Node) :
    Fields Values Held → Held → Except DocumentError Held
  | .nil, held => node.skip.map fun _ => held
  | .cons field rest, (value, held) =>
    if field.name = name then
      if value.isSome then .error (.mismatch (.duplicateField name))
      else (field.codec.read room node).map fun value => (some value, held)
    else (rest.put room name node held).map fun held => (value, held)

def finish {Values Held : Type} : Fields Values Held → Held → Except DocumentError Values
  | .nil, _ => .ok ()
  | .cons field rest, (value, held) =>
    match value.or field.whenMissing with
    | none => .error (.mismatch (.missingField field.name))
    | some value => (rest.finish held).map fun values => (value, values)

def readMembers (fields : Fields Values Held) (room : Nat) (held : Held) :
    Members → Except DocumentError Values
  | .close => fields.finish held
  | .stop fault => .error (.ofFault fault)
  | .dangling fault => .error (.ofFault fault)
  | .member key node rest =>
    match key.text with
    | .error error => .error error
    | .ok name =>
      match fields.put room name node held with
      | .error error => .error error
      | .ok held => fields.readMembers room held rest

def readItems {Values Held : Type} (expected : String) (room : Nat) :
    Nat → Fields Values Held → Items → Except DocumentError Values
  | _, .nil, .close => .ok ()
  | _, .nil, .stop fault => .error (.ofFault fault)
  | _, .nil, .item _ _ => .error .malformed
  | _, .cons _ _, .stop fault => .error (.ofFault fault)
  | index, .cons field rest, .close =>
    match field.whenShort with
    | none => .error (.mismatch (.invalidLength index expected))
    | some value => (rest.readItems expected room (index + 1) .close).map fun values => (value, values)
  | index, .cons field rest, .item node items =>
    match field.codec.read room node with
    | .error error => .error error
    | .ok value =>
      (rest.readItems expected room (index + 1) items).map fun values => (value, values)

def write {Values Held : Type} : Fields Values Held → Values → List (String × Json)
  | .nil, _ => []
  | .cons field rest, (value, values) =>
    if field.shown value then (field.name, field.codec.write value) :: rest.write values
    else rest.write values

end Fields

def recordLabel (name : String) : String := "struct " ++ name

def fieldsLabel (name : String) (count : Nat) : String :=
  recordLabel name ++ " with " ++ Text.decimal count ++ (if count == 1 then " element" else " elements")

def Codec.record {Values Held : Type} (name : String) (fields : Fields Values Held) : Codec Values where
  read
    | 0, .array _ => .error .malformed
    | room + 1, .array items => fields.readItems (fieldsLabel name fields.count) room 0 items
    | 0, .object _ => .error .malformed
    | room + 1, .object members => fields.readMembers room fields.start members
    | _, other => other.expecting (recordLabel name)
  write values := .object (fields.write values)

/-- One of several words: a text, or an object whose only key is the word and whose value is `null`. -/
def Codec.choice {Value : Type} (word : Value → String) (values : List Value) : Codec Value where
  read room node :=
    let chosen (literal : Literal) : Except DocumentError Value :=
      match literal.text with
      | .error error => .error error
      | .ok name =>
        match values.find? fun value => word value == name with
        | some value => .ok value
        | none => .error (.mismatch (.unknownVariant name (values.map word)))
    match node with
    | .text literal => chosen literal
    | .absent => .error .truncated
    | .object members =>
      if room = 0 then .error .malformed
      else
        match members with
        | .stop fault => .error (.ofFault fault)
        | .member key content rest =>
          match chosen key with
          | .error error => .error error
          | .ok value =>
            match content with
            | .null =>
              match rest with
              | .close => .ok value
              | .stop fault => .error (.ofFault fault)
              | _ => .error .malformed
            | other => other.expecting "unit"
        | _ => .error .malformed
    | _ => .error .malformed
  write value := .text (word value)

end LiveService
