import LiveService.Net.Address
import LiveService.Text.Blank

/-!
Where to listen: a configured text names a literal address, or a host to look up and a port.
-/

namespace LiveService

inductive Target where
  | literal (address : SocketAddress)
  | named (host : String) (port : UInt16)
  deriving DecidableEq

inductive TargetError where
  | noPort
  | invalidPort
  | nulInHost
  deriving DecidableEq

def TargetError.message : TargetError → String
  | .noPort => "invalid socket address"
  | .invalidPort => "invalid port value"
  | .nulInHost => "file name contained an unexpected NUL byte"

namespace Target

def splitLast? (chars : List Char) : Option (List Char × List Char) :=
  let back := chars.reverse.takeWhile (· != ':')
  if back.length < chars.length then
    some (chars.take (chars.length - back.length - 1), back.reverse)
  else none

def port? (chars : List Char) : Option UInt16 :=
  let digits := if chars.head? == some '+' then chars.drop 1 else chars
  if digits.isEmpty || !digits.all Char.isDigit then none
  else
    let value := SocketAddress.numberOf 10 digits
    if value < 65536 then some value.toUInt16 else none

def expanded (trimmed : String) : String :=
  if trimmed.toList.head? == some ':' then "0.0.0.0" ++ trimmed else trimmed

/-- A literal address comes first; else the text is split at its last colon. -/
def ofText (text : String) : Except TargetError Target :=
  match SocketAddress.ofLiteral? text with
  | some address => .ok (.literal address)
  | none =>
    match splitLast? text.toList with
    | none => .error .noPort
    | some (host, port) =>
      match port? port with
      | none => .error .invalidPort
      | some port =>
        if host.contains '\x00' then .error .nulInHost else .ok (.named (String.ofList host) port)

def looksLikeHostPort (text : String) : Bool :=
  match splitLast? text.toList with
  | none => false
  | some (host, port) => host.getLast? != some ':' && (port? port).isSome

end Target

end LiveService
