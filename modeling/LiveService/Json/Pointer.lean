import LiveService.Json.Basic

/-!
Pointers into documents: `/a/0` is the first item of the member `a`.  A slash inside a name is written
`~1`, and a tilde `~0`.
-/

namespace LiveService.Json

def index? (name : String) : Option Nat :=
  let chars := name.toList
  if chars.all Char.isDigit && (chars.head? != some '0' || chars.length == 1) then name.toNat?
  else none

def child? (name : String) : Json → Option Json
  | .object members => members.lookup name
  | .array items => (index? name).bind fun index => items[index]?
  | _ => none

def pointed? (pointer : String) (document : Json) : Option Json :=
  match pointer.splitOn "/" with
  | [""] => some document
  | "" :: names =>
    names.foldlM (fun document name => child? ((name.replace "~1" "/").replace "~0" "~") document)
      document
  | _ => none

end LiveService.Json
