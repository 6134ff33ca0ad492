import LiveService.Text.Bytes

/-!
Messages of the hypertext protocol, as far as the service looks at them.
-/

namespace LiveService.Http

structure Request where
  method : String
  path : String
  contentType : Option String
  body : Bytes

/-- `allow` lists the methods of a path when the method of the request is none of them. -/
structure Response where
  status : Nat
  allow : Option String
  contentType : Option String
  body : Bytes

namespace Response

def ok (contentType : String) (body : Bytes) : Response := ⟨200, none, some contentType, body⟩

def bare (status : Nat) : Response := ⟨status, none, none, []⟩

def notAllowed (methods : List String) : Response :=
  ⟨405, some (String.intercalate "," methods), none, []⟩

def succeeded (response : Response) : Bool := 200 ≤ response.status && response.status < 300

end Response

def isTokenChar (char : Char) : Bool :=
  char.isAlphanum || "!#$%&'*+-.^_`|~".toList.contains char

def isToken (text : String) : Bool := text != "" && text.toList.all isTokenChar

def isHeaderValue (text : String) : Bool :=
  text.toList.all fun char => char == '\t' || (0x20 ≤ char.toNat && char.toNat != 0x7f)

end LiveService.Http
