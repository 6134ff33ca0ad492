import LiveService.Json.DocumentError

/-!
The text that a literal spells.  Code units outside the basic plane come in pairs, a leading one and
a trailing one; the bytes that result have to be well-formed.
-/

namespace LiveService.Json

def isLeading (code : Nat) : Bool := 0xd800 ≤ code && code < 0xdc00

def isTrailing (code : Nat) : Bool := 0xdc00 ≤ code && code < 0xe000

def paired (leading trailing : Nat) : Nat :=
  0x10000 + (leading - 0xd800) * 0x400 + (trailing - 0xdc00)

def spellCode (code : Nat) : Bytes := String.utf8EncodeChar (Char.ofNat code)

/-- The bytes of the pieces; `atEnd` is the error of a text that stops between two paired units. -/
def spell (atEnd : DocumentError) : List Piece → Except DocumentError Bytes
  | [] => .ok []
  | .plain octet :: rest => (spell atEnd rest).map (octet :: ·)
  | .unit code :: rest =>
    if isTrailing code then .error .malformed
    else if isLeading code then
      match rest with
      | [] => .error atEnd
      | .plain _ :: _ => .error .malformed
      | .unit next :: rest =>
        if isTrailing next then (spell atEnd rest).map (spellCode (paired code next) ++ ·)
        else .error .malformed
    else (spell atEnd rest).map (spellCode code ++ ·)

def Literal.text (literal : Literal) : Except DocumentError String :=
  match spell ((literal.fault.map DocumentError.ofFault).getD .malformed) literal.pieces with
  | .error error => .error error
  | .ok octets =>
    match literal.fault with
    | some fault => .error (.ofFault fault)
    | none =>
      match Text.ofBytes? octets with
      | some spelled => .ok spelled
      | none => .error .malformed

end LiveService.Json
