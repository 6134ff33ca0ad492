import LiveService.Json.Record

/-!
Whole documents: one value, and nothing but white space after it.
-/

namespace LiveService.Codec

open Json

variable {Value : Type}

def decode (codec : Codec Value) (octets : Bytes) : Except DocumentError Value :=
  let (node, rest) := readNode octets
  match codec.read nestingLimit node with
  | .error error => .error error
  | .ok value =>
    match rest with
    | .error fault => .error (.ofFault fault)
    | .ok rest => if (skipSpace rest).isEmpty then .ok value else .error .malformed

def encode (codec : Codec Value) (value : Value) : Bytes := fileText (codec.write value)

end LiveService.Codec
