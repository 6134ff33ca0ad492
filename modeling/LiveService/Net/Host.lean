import LiveService.Net.Target

/-!
Hosts that are numbers already and need no look-up: up to four parts in decimal, octal or
hexadecimal, the last of which fills the bytes that are left, or eight groups with a zone.
-/

namespace LiveService.Host

def partValue? (part : List Char) : Option Nat :=
  let (radix, digits) :=
    match part with
    | '0' :: 'x' :: rest => (16, rest)
    | '0' :: 'X' :: rest => (16, rest)
    | '0' :: rest => (8, '0' :: rest)
    | digits => (10, digits)
  if !digits.isEmpty && digits.all fun digit => (SocketAddress.digitOf? radix digit).isSome then
    some (SocketAddress.numberOf radix digits)
  else none

def bytesOf (value : Nat) : Nat → List UInt8
  | 0 => []
  | count + 1 => (value / Nat.pow 256 count).toUInt8 :: bytesOf value count

def octets? : Nat → List (List Char) → Option (List UInt8)
  | room, [last] =>
    (partValue? last).bind fun value => if value < Nat.pow 256 room then some (bytesOf value room) else none
  | room + 1, part :: rest =>
    (partValue? part).bind fun value =>
      if value < 256 then (octets? room rest).map (value.toUInt8 :: ·) else none
  | _, _ => none

def splitDots (chars : List Char) : List (List Char) :=
  chars.foldr (fun char parts =>
    match char, parts with
    | '.', parts => [] :: parts
    | char, part :: rest => (char :: part) :: rest
    | char, [] => [[char]]) [[]]

/-- Whether an address means something on one link or one interface only, as a host or as a group. -/
def isOfLink (groups : List UInt16) : Bool :=
  groups.head?.any fun first =>
    first &&& 0xffc0 == 0xfe80 || first &&& 0xff0f == 0xff01 || first &&& 0xff0f == 0xff02

def loopbackZone? (groups : List UInt16) (zone : List Char) : Option UInt32 :=
  if isOfLink groups && zone == ['%', 'l', 'o'] then some 1 else none

def v6? (chars : List Char) : Option IpAddress :=
  (SocketAddress.scanV6 chars).bind fun (groups, rest) =>
    match rest with
    | [] => some (.v6 groups 0)
    | rest =>
      match SocketAddress.scanZone rest with
      | some (zone, []) => some (.v6 groups zone)
      | _ => (loopbackZone? groups rest).map (.v6 groups)

def numeric? (host : String) : Option IpAddress :=
  ((octets? 4 (splitDots host.toList)).map IpAddress.v4).or (v6? host.toList)

def lookUpNumeric (host : String) : Except String (List IpAddress) :=
  match numeric? host with
  | some ip => .ok [ip]
  | none => .error "Name or service not known"

end LiveService.Host
