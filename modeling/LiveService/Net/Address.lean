import LiveService.Text.Bytes

/-!
Socket addresses in their literal form: `1.2.3.4:80`, or `[2001:db8::1%3]:80` with a zone that may be
left out.
-/

namespace LiveService

inductive IpAddress where
  | v4 (octets : List UInt8)
  | v6 (groups : List UInt16) (zone : UInt32)
  deriving DecidableEq

structure SocketAddress where
  ip : IpAddress
  port : UInt16
  deriving DecidableEq

namespace SocketAddress

abbrev Scanner (Value : Type) := List Char → Option (Value × List Char)

def digitOf? (radix : Nat) (char : Char) : Option Nat :=
  let code := char.toNat
  let value :=
    if 0x30 ≤ code && code ≤ 0x39 then code - 0x30
    else if 0x61 ≤ code && code ≤ 0x7a then code - 0x57
    else if 0x41 ≤ code && code ≤ 0x5a then code - 0x37
    else radix
  if value < radix then some value else none

def numberOf (radix : Nat) (digits : List Char) : Nat :=
  digits.foldl (fun value digit => radix * value + (digitOf? radix digit).getD 0) 0

def scanNumber (radix bound : Nat) (width : Option Nat) (leadingZero : Bool) : Scanner Nat
  | chars =>
    let digits := chars.takeWhile fun char => (digitOf? radix char).isSome
    let value := numberOf radix digits
    let fits := (width.map fun most => decide (digits.length ≤ most)).getD true
    let zeroFits := leadingZero || digits.length ≤ 1 || digits.head? != some '0'
    if !digits.isEmpty && fits && zeroFits && value ≤ bound then
      some (value, chars.drop digits.length)
    else none

def scanChar (wanted : Char) : Scanner Unit
  | char :: rest => if char == wanted then some ((), rest) else none
  | [] => none

def separated {Value : Type} (separator : Char) (isFirst : Bool) (scan : Scanner Value) :
    Scanner Value
  | chars =>
    if isFirst then scan chars
    else (scanChar separator chars).bind fun (_, rest) => scan rest

def scanOctet : Scanner UInt8
  | chars => (scanNumber 10 255 (some 3) false chars).map fun (value, rest) => (value.toUInt8, rest)

def scanGroup : Scanner UInt16
  | chars => (scanNumber 16 65535 (some 4) true chars).map fun (value, rest) => (value.toUInt16, rest)

def scanOctets : Nat → Bool → Scanner (List UInt8)
  | 0, _, chars => some ([], chars)
  | count + 1, isFirst, chars =>
    (separated '.' isFirst scanOctet chars).bind fun (octet, rest) =>
      (scanOctets count false rest).map fun (octets, rest) => (octet :: octets, rest)

def scanV4 : Scanner (List UInt8) := scanOctets 4 true

def groupsOfOctets : List UInt8 → List UInt16
  | high :: low :: rest => (high.toUInt16 * 256 + low.toUInt16) :: groupsOfOctets rest
  | _ => []

/-- As many groups as there are, up to a limit; four octets may stand for the last two.  Says also
whether they do. -/
def scanGroups : Nat → Bool → List Char → List UInt16 × Bool × List Char
  | 0, _, chars => ([], false, chars)
  | limit + 1, isFirst, chars =>
    match if limit == 0 then none else separated ':' isFirst scanV4 chars with
    | some (octets, rest) => (groupsOfOctets octets, true, rest)
    | none =>
      match separated ':' isFirst scanGroup chars with
      | some (group, rest) =>
        let (groups, embedded, rest) := scanGroups limit false rest
        (group :: groups, embedded, rest)
      | none => ([], false, chars)

/-- Eight groups, of which two colons stand for one or more that are zero. -/
def scanV6 : Scanner (List UInt16)
  | chars =>
    let (front, embedded, rest) := scanGroups 8 true chars
    if front.length == 8 then some (front, rest)
    else if embedded then none
    else
      (scanChar ':' rest).bind fun (_, rest) =>
        (scanChar ':' rest).map fun (_, rest) =>
          let (back, _, rest) := scanGroups (7 - front.length) true rest
          (front ++ List.replicate (8 - front.length - back.length) 0 ++ back, rest)

def scanPort : Scanner UInt16
  | chars =>
    (scanChar ':' chars).bind fun (_, rest) =>
      (scanNumber 10 65535 none true rest).map fun (port, rest) => (port.toUInt16, rest)

def scanZone : Scanner UInt32
  | chars =>
    (scanChar '%' chars).bind fun (_, rest) =>
      (scanNumber 10 (UInt32.size - 1) none true rest).map fun (zone, rest) => (zone.toUInt32, rest)

def scanSocketV4 : Scanner SocketAddress
  | chars =>
    (scanV4 chars).bind fun (octets, rest) =>
      (scanPort rest).map fun (port, rest) => (⟨.v4 octets, port⟩, rest)

def scanSocketV6 : Scanner SocketAddress
  | chars =>
    (scanChar '[' chars).bind fun (_, rest) =>
      (scanV6 rest).bind fun (groups, rest) =>
        let (zone, rest) := (scanZone rest).getD (0, rest)
        (scanChar ']' rest).bind fun (_, rest) =>
          (scanPort rest).map fun (port, rest) => (⟨.v6 groups zone, port⟩, rest)

def ofLiteral? (text : String) : Option SocketAddress :=
  match (scanSocketV4 text.toList).or (scanSocketV6 text.toList) with
  | some (address, []) => some address
  | _ => none

def longestZeros : Nat → List UInt16 → Nat × Nat
  | _, [] => (0, 0)
  | start, group :: rest =>
    let here := ((group :: rest).takeWhile (· == 0)).length
    let (later, length) := longestZeros (start + 1) rest
    if length ≤ here then (start, here) else (later, length)

def joinGroups (groups : List UInt16) : String :=
  String.intercalate ":" (groups.map fun group => Text.hexadecimal group.toNat)

def textV4 (octets : List UInt8) : String :=
  String.intercalate "." (octets.map fun octet => Text.decimal octet.toNat)

def textV6 (groups : List UInt16) : String :=
  match groups with
  | [0, 0, 0, 0, 0, 0xffff, high, low] =>
    "::ffff:" ++ textV4 [(high / 256).toUInt8, high.toUInt8, (low / 256).toUInt8, low.toUInt8]
  | _ =>
    let (start, length) := longestZeros 0 groups
    if 1 < length then
      joinGroups (groups.take start) ++ "::" ++ joinGroups (groups.drop (start + length))
    else joinGroups groups

def hostText (address : SocketAddress) : String :=
  match address.ip with
  | .v4 octets => textV4 octets
  | .v6 groups zone =>
    "[" ++ textV6 groups ++ (if zone == 0 then "" else "%" ++ Text.decimal zone.toNat) ++ "]"

def text (address : SocketAddress) : String :=
  address.hostText ++ ":" ++ Text.decimal address.port.toNat

end SocketAddress

end LiveService
