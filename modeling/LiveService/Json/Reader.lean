import LiveService.Json.Node

/-!
Reading bytes as a `Node`.  Every scanner takes from the front of the bytes and hands back the rest,
or the fault that stops it; white space between tokens carries no meaning.
-/

namespace LiveService.Json

abbrev Rest := Except Fault Bytes

def isSpace (octet : UInt8) : Bool :=
  octet == 0x20 || octet == 0x0a || octet == 0x0d || octet == 0x09

def skipSpace (octets : Bytes) : Bytes := octets.dropWhile isSpace

def isDigit (octet : UInt8) : Bool := 0x30 ≤ octet && octet ≤ 0x39

def expect : Bytes → Bytes → Rest
  | [], octets => .ok octets
  | _ :: _, [] => .error .truncated
  | wanted :: word, octet :: octets =>
    if wanted == octet then expect word octets else .error .malformed

def scanDigits (octets : Bytes) : Except Fault (Bytes × Bytes) :=
  match octets with
  | [] => .error .truncated
  | octet :: _ =>
    if isDigit octet then .ok (octets.span isDigit) else .error .malformed

def scanWhole (octets : Bytes) : Except Fault (Bytes × Bytes) :=
  match octets with
  | [] => .error .truncated
  | 0x30 :: rest =>
    if (rest.head?.map isDigit).getD false then .error .malformed else .ok ([0x30], rest)
  | _ => scanDigits octets

def scanFraction (octets : Bytes) : Except Fault (Option Bytes × Bytes) :=
  match octets with
  | 0x2e :: rest => (scanDigits rest).map fun scanned => (some scanned.1, scanned.2)
  | _ => .ok (none, octets)

def scanExponent (octets : Bytes) : Except Fault (Option (Bool × Bytes) × Bytes) :=
  match octets with
  | octet :: rest =>
    if octet == 0x65 || octet == 0x45 then
      let negative := rest.head? == some 0x2d
      let unsigned := if negative || rest.head? == some 0x2b then rest.drop 1 else rest
      (scanDigits unsigned).map fun scanned => (some (negative, scanned.1), scanned.2)
    else .ok (none, octets)
  | [] => .ok (none, octets)

def scanNumeral (negative : Bool) (octets : Bytes) : Except Fault (Numeral × Bytes) := do
  let (whole, rest) ← scanWhole octets
  let (fraction, rest) ← scanFraction rest
  let (exponent, rest) ← scanExponent rest
  return (⟨negative, whole, fraction, exponent⟩, rest)

def hexValue? (octet : UInt8) : Option Nat :=
  if 0x30 ≤ octet && octet ≤ 0x39 then some (octet.toNat - 0x30)
  else if 0x61 ≤ octet && octet ≤ 0x66 then some (octet.toNat - 0x57)
  else if 0x41 ≤ octet && octet ≤ 0x46 then some (octet.toNat - 0x37)
  else none

def scanUnit (first second third fourth : UInt8) : Option Nat := do
  let high ← hexValue? first
  let upper ← hexValue? second
  let lower ← hexValue? third
  let low ← hexValue? fourth
  return ((high * 16 + upper) * 16 + lower) * 16 + low

def unescaped? (octet : UInt8) : Option UInt8 :=
  if octet == 0x22 || octet == 0x5c || octet == 0x2f then some octet
  else if octet == 0x62 then some 0x08
  else if octet == 0x66 then some 0x0c
  else if octet == 0x6e then some 0x0a
  else if octet == 0x72 then some 0x0d
  else if octet == 0x74 then some 0x09
  else none

def Literal.cons (piece : Piece) (scanned : Literal × Rest) : Literal × Rest :=
  (⟨piece :: scanned.1.pieces, scanned.1.fault⟩, scanned.2)

def Literal.stopped (fault : Fault) : Literal × Rest := (⟨[], some fault⟩, .error fault)

def scanLiteral : Bytes → Literal × Rest
  | [] => Literal.stopped .truncated
  | 0x22 :: rest => (⟨[], none⟩, .ok rest)
  | [0x5c] => Literal.stopped .truncated
  | 0x5c :: 0x75 :: first :: second :: third :: fourth :: rest =>
    match scanUnit first second third fourth with
    | some code => Literal.cons (.unit code) (scanLiteral rest)
    | none => Literal.stopped .malformed
  | 0x5c :: 0x75 :: _ => Literal.stopped .truncated
  | 0x5c :: octet :: rest =>
    match unescaped? octet with
    | some meant => Literal.cons (.plain meant) (scanLiteral rest)
    | none => Literal.stopped .malformed
  | octet :: rest =>
    if octet < 0x20 then Literal.stopped .malformed
    else Literal.cons (.plain octet) (scanLiteral rest)

def readWord (node : Node) (word octets : Bytes) : Node × Rest :=
  match expect word octets with
  | .ok rest => (node, .ok rest)
  | .error fault => (.broken fault, .error fault)

def readNumber (negative : Bool) (octets : Bytes) : Node × Rest :=
  match scanNumeral negative octets with
  | .ok (numeral, rest) => (.number numeral, .ok rest)
  | .error .truncated => (.unfinished, .error .truncated)
  | .error .malformed => (.broken .malformed, .error .malformed)

def readKey (octets : Bytes) : Literal × Rest :=
  match scanLiteral octets with
  | (key, .error fault) => (key, .error fault)
  | (key, .ok rest) =>
    match skipSpace rest with
    | [] => (key, .error .truncated)
    | 0x3a :: rest => (key, .ok rest)
    | _ :: _ => (key, .error .malformed)

mutual

/-- A value, after white space.  The fuel bounds the depth and the number of entries together. -/
def readValue : Nat → Bytes → Node × Rest
  | 0, _ => (.broken .malformed, .error .malformed)
  | fuel + 1, octets =>
    match skipSpace octets with
    | [] => (.absent, .error .truncated)
    | 0x6e :: rest => readWord .null [0x75, 0x6c, 0x6c] rest
    | 0x74 :: rest => readWord (.bool true) [0x72, 0x75, 0x65] rest
    | 0x66 :: rest => readWord (.bool false) [0x61, 0x6c, 0x73, 0x65] rest
    | 0x22 :: rest => let (literal, rest) := scanLiteral rest; (.text literal, rest)
    | 0x5b :: rest => let (items, rest) := readItems fuel rest; (.array items, rest)
    | 0x7b :: rest => let (members, rest) := readMembers fuel rest; (.object members, rest)
    | 0x2d :: rest => readNumber true rest
    | octet :: rest =>
      if isDigit octet then readNumber false (octet :: rest)
      else (.broken .malformed, .error .malformed)

def readItems : Nat → Bytes → Items × Rest
  | 0, _ => (.stop .malformed, .error .malformed)
  | fuel + 1, octets =>
    match skipSpace octets with
    | [] => (.stop .truncated, .error .truncated)
    | 0x5d :: rest => (.close, .ok rest)
    | octet :: rest => readItem fuel (octet :: rest)

def readItem : Nat → Bytes → Items × Rest
  | 0, _ => (.stop .malformed, .error .malformed)
  | fuel + 1, octets =>
    match readValue fuel octets with
    | (node, .error fault) => (.item node (.stop fault), .error fault)
    | (node, .ok rest) =>
      match skipSpace rest with
      | [] => (.item node (.stop .truncated), .error .truncated)
      | 0x5d :: rest => (.item node .close, .ok rest)
      | 0x2c :: rest => let (items, rest) := readItem fuel rest; (.item node items, rest)
      | _ :: _ => (.item node (.stop .malformed), .error .malformed)

def readMembers : Nat → Bytes → Members × Rest
  | 0, _ => (.stop .malformed, .error .malformed)
  | fuel + 1, octets =>
    match skipSpace octets with
    | [] => (.stop .truncated, .error .truncated)
    | 0x7d :: rest => (.close, .ok rest)
    | 0x22 :: rest => readMember fuel rest
    | _ :: _ => (.stop .malformed, .error .malformed)

def readMember : Nat → Bytes → Members × Rest
  | 0, _ => (.stop .malformed, .error .malformed)
  | fuel + 1, octets =>
    match readKey octets with
    | (key, .error .truncated) => (.member key .absent (.stop .truncated), .error .truncated)
    | (key, .error .malformed) =>
      (.member key (.broken .malformed) (.stop .malformed), .error .malformed)
    | (key, .ok rest) =>
      match readValue fuel rest with
      | (node, .error fault) => (.member key node (.stop fault), .error fault)
      | (node, .ok rest) =>
        match skipSpace rest with
        | [] => (.member key node (.stop .truncated), .error .truncated)
        | 0x7d :: rest => (.member key node .close, .ok rest)
        | 0x2c :: rest =>
          match skipSpace rest with
          | [] => (.member key node (.dangling .truncated), .error .truncated)
          | 0x22 :: rest => let (members, rest) := readMember fuel rest; (.member key node members, rest)
          | _ :: _ => (.member key node (.dangling .malformed), .error .malformed)
        | _ :: _ => (.member key node (.stop .malformed), .error .malformed)

end

/-- Of any three calls in a row one takes a byte, so this much fuel never runs out. -/
def readNode (octets : Bytes) : Node × Rest := readValue (3 * octets.length + 3) octets

end LiveService.Json
