/-!
How much a line of the log matters, and the words that set a bound on it.
-/

namespace LiveService

inductive Level where
  | error
  | warn
  | info
  | debug
  | trace
  deriving DecidableEq

namespace Level

def word : Level → String
  | .error => "ERROR"
  | .warn => "WARN"
  | .info => "INFO"
  | .debug => "DEBUG"
  | .trace => "TRACE"

def rank : Level → Nat
  | .error => 1
  | .warn => 2
  | .info => 3
  | .debug => 4
  | .trace => 5

def ofRank? : Nat → Option (Option Level)
  | 0 => some none
  | 1 => some (some .error)
  | 2 => some (some .warn)
  | 3 => some (some .info)
  | 4 => some (some .debug)
  | 5 => some (some .trace)
  | _ => none

def boundOfNumber? (text : String) : Option (Option Level) :=
  let digits := if text.toList.head? == some '+' then text.toList.drop 1 else text.toList
  if digits.all Char.isDigit then (String.ofList digits).toNat?.bind ofRank? else none

def bound? (text : String) : Option (Option Level) :=
  match text.toLower with
  | "off" => some none
  | "error" => some (some .error)
  | "warn" => some (some .warn)
  | "info" => some (some .info)
  | "debug" => some (some .debug)
  | "trace" => some (some .trace)
  | _ => boundOfNumber? text

end Level

end LiveService
