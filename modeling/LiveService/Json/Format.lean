import LiveService.Json.Document

/-!
How values of a type stand in files.  A format may refuse to write a value, and need not read back
what it wrote.
-/

namespace LiveService

structure Format (Value : Type) where
  encode : Value → Except Json.DocumentError Bytes
  decode : Bytes → Except Json.DocumentError Value

/-- Writes a value and reads it back: the value that the file would give, and the file. -/
def Format.roundTrip {Value : Type} (format : Format Value) (value : Value) :
    Except Json.DocumentError (Value × Bytes) :=
  match format.encode value with
  | .error error => .error error
  | .ok content =>
    match format.decode content with
    | .error error => .error error
    | .ok checked => .ok (checked, content)

def Codec.format {Value : Type} (codec : Codec Value) : Format Value :=
  ⟨fun value => .ok (codec.encode value), codec.decode⟩

end LiveService
