import LiveService.Http.Message

/-!
Media types such as `application/problem+json; charset=utf-8`.  The last plus sign starts the suffix;
parameters have to be well-formed, but nobody looks at them.
-/

namespace LiveService.Http

structure MediaType where
  top : String
  subtype : String
  suffix : Option String

namespace MediaType

inductive Place where
  | before
  | name
  | valueStart
  | value
  | quoteStart
  | quote
  | quoteEnd

def Place.next? (place : Place) (char : Char) : Option Place :=
  let printable := 0x20 ≤ char.toNat && char.toNat < 0x7f
  match place with
  | .before =>
    if char == ' ' then some .before else if isTokenChar char then some .name else none
  | .name =>
    if char == '=' then some .valueStart else if isTokenChar char then some .name else none
  | .valueStart =>
    if char == '"' then some .quoteStart else if isTokenChar char then some .value else none
  | .value =>
    if char == ';' then some .before else if isTokenChar char then some .value else none
  | .quoteStart => if printable then some .quote else none
  | .quote => if char == '"' then some .quoteEnd else if printable then some .quote else none
  | .quoteEnd =>
    if char == ';' then some .before else if char == ' ' then some .quoteEnd else none

def Place.isFinal : Place → Bool
  | .before | .valueStart | .value | .quoteEnd => true
  | .name | .quoteStart | .quote => false

def areParameters (chars : List Char) : Bool :=
  match chars.foldlM Place.next? Place.before with
  | some place => place.isFinal
  | none => false

def splitSuffix (subtype : List Char) : List Char × Option (List Char) :=
  let back := subtype.reverse.takeWhile (· != '+')
  let front := subtype.take (subtype.length - back.length - 1)
  if front.isEmpty then (subtype, none) else (front, some back.reverse)

def ofText? (text : String) : Option MediaType :=
  let (top, rest) := text.toList.span isTokenChar
  match rest with
  | '/' :: rest =>
    let (subtype, rest) := rest.span isTokenChar
    let parametersFit :=
      match rest with
      | [] => true
      | ';' :: parameters => !subtype.isEmpty && areParameters parameters
      | _ => false
    if top.isEmpty || !parametersFit then none
    else
      let (subtype, suffix) := splitSuffix subtype
      some ⟨String.ofList top, String.ofList subtype, suffix.map String.ofList⟩
  | _ => none

/-- Documents are of the type `application/json`, or of another one with that suffix; case does not
count. -/
def isDocument (media : MediaType) : Bool :=
  media.top.toLower == "application" &&
    (media.subtype.toLower == "json" || media.suffix.map String.toLower == some "json")

end MediaType

end LiveService.Http
