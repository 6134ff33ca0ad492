import LiveService.Decimal.Floating
import LiveService.Json.Node
import LiveService.Text.Quoted

/-!
What can be wrong with a document that should hold a value of some type, and the wording of it.
-/

namespace LiveService.Json

inductive Found where
  | null
  | bool (value : Bool)
  | number (value : Number)
  | text (value : String)
  | sequence
  | map

def Found.describe : Found → String
  | .null => "null"
  | .bool value => "boolean `" ++ (if value then "true" else "false") ++ "`"
  | .number (.integer value) =>
      "integer `" ++ (if value < 0 then "-" else "") ++ Text.decimal value.natAbs ++ "`"
  | .number (.float value) => "floating point `" ++ Decimal.documentStyle.text value ++ "`"
  | .text value => "string " ++ Text.quoted value
  | .sequence => "sequence"
  | .map => "map"

inductive Mismatch where
  | invalidType (found : Found) (expected : String)
  | invalidValue (found : Found) (expected : String)
  | invalidLength (length : Nat) (expected : String)
  | missingField (name : String)
  | duplicateField (name : String)
  | unknownVariant (name : String) (variants : List String)
  | notAWeekday

def Mismatch.message : Mismatch → String
  | .invalidType found expected => "invalid type: " ++ found.describe ++ ", expected " ++ expected
  | .invalidValue found expected => "invalid value: " ++ found.describe ++ ", expected " ++ expected
  | .invalidLength length expected =>
      "invalid length " ++ Text.decimal length ++ ", expected " ++ expected
  | .missingField name => "missing field `" ++ name ++ "`"
  | .duplicateField name => "duplicate field `" ++ name ++ "`"
  | .unknownVariant name variants =>
      "unknown variant `" ++ name ++ "`, expected " ++
        String.intercalate " or " (variants.map fun variant => "`" ++ variant ++ "`")
  | .notAWeekday => "short or long weekday names expected"

/-- The first thing wrong with a document, in document order. -/
inductive DocumentError where
  | truncated
  | malformed
  | mismatch (reason : Mismatch)

def DocumentError.ofFault : Fault → DocumentError
  | .truncated => .truncated
  | .malformed => .malformed

def DocumentError.message : DocumentError → String
  | .truncated => "<Eof>"
  | .malformed => "<Syntax>"
  | .mismatch reason => reason.message

end LiveService.Json
