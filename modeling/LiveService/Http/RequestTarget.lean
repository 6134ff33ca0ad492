import LiveService.Http.Message

/-!
What a request asks for: a path with a query, an absolute address, or only an authority.
-/

namespace LiveService.Http.RequestTarget

def longest : Nat := 65534

def isBetween (least greatest : Nat) (char : Char) : Bool :=
  least ≤ char.toNat && char.toNat ≤ greatest

def isPathChar (char : Char) : Bool :=
  char != '#' && char != '?' && char != '<' && char != '>' && char != '`' &&
    0x21 ≤ char.toNat && char.toNat != 0x7f

def isQueryChar (char : Char) : Bool :=
  char == '?' || char == '`' || (isPathChar char && char != '"')

def pathBeforeQuery? (chars : List Char) : Option (List Char) :=
  let (path, rest) := chars.span isPathChar
  match rest with
  | [] => some path
  | '#' :: _ => some path
  | '?' :: query =>
    match query.dropWhile isQueryChar with
    | [] => some path
    | '#' :: _ => some path
    | _ => none
  | _ => none

structure Authority where
  colons : Nat
  opened : Bool
  closed : Bool
  escaped : Bool
  endsUser : Bool

namespace Authority

def start : Authority := ⟨0, false, false, false, false⟩

def isPlainChar (char : Char) : Bool :=
  char.isAlphanum || "!$&'()*+,-.;=_~".toList.contains char

def take? (seen : Authority) (char : Char) : Option Authority :=
  let seen := { seen with endsUser := false }
  match char with
  | ':' => if 8 ≤ seen.colons then none else some { seen with colons := seen.colons + 1 }
  | '[' => if seen.escaped || seen.opened then none else some { seen with opened := true }
  | ']' =>
    if !seen.opened || seen.closed then none
    else some { seen with closed := true, colons := 0, escaped := false }
  | '@' => some { seen with colons := 0, escaped := false, endsUser := true }
  | '%' => some { seen with escaped := true }
  | char => if isPlainChar char then some seen else none

def isComplete (seen : Authority) : Bool :=
  seen.opened == seen.closed && seen.colons ≤ 1 && !seen.endsUser && !seen.escaped

def isValid (chars : List Char) : Bool :=
  match chars.foldlM take? start with
  | some seen => seen.isComplete
  | none => false

end Authority

def isSchemeChar (char : Char) : Bool := char.isAlphanum || "+-.~".toList.contains char

def longestScheme : Nat := 64

def afterScheme? (chars : List Char) : Option (Except Unit (List Char)) :=
  let (scheme, rest) := chars.span isSchemeChar
  match rest with
  | ':' :: '/' :: '/' :: rest =>
    some (if longestScheme < scheme.length then .error () else .ok rest)
  | _ => none

def endsAuthority (char : Char) : Bool := char == '/' || char == '?' || char == '#'

/-- The path that a target asks for.  An authority alone has none, and an absolute address that stops
after its authority has the root. -/
def path? (target : String) : Option String :=
  let chars := target.toList
  if longest < target.utf8ByteSize || chars.isEmpty then none
  else if chars == ['*'] then some target
  else if chars.head? == some '/' then (pathBeforeQuery? chars).map String.ofList
  else
    match afterScheme? chars with
    | some (.error ()) => none
    | none => if Authority.isValid chars then some "" else none
    | some (.ok rest) =>
      let (authority, rest) := rest.span fun char => !endsAuthority char
      if authority.isEmpty || !Authority.isValid authority then none
      else (pathBeforeQuery? rest).map fun path => if path.isEmpty then "/" else String.ofList path

end LiveService.Http.RequestTarget

namespace LiveService.Http

def longestHeaderName : Nat := 65535

/-- A request of these parts, if each of them is well-formed.  Header names do not depend on case, and
the first of a name counts. -/
def Request.of? (method target : String) (headers : List (String × String)) (body : Bytes) :
    Option Request :=
  let headersFit := headers.all fun (name, value) =>
    isToken name && name.utf8ByteSize ≤ longestHeaderName && isHeaderValue value
  let contentType := (headers.find? fun (name, _) => name.toLower == "content-type").map Prod.snd
  if isToken method && headersFit then
    (RequestTarget.path? target).map fun path => ⟨method, path, contentType, body⟩
  else none

end LiveService.Http
