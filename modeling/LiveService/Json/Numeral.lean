import LiveService.Json.Node

/-!
The number that a numeral stands for.  Digits count towards a significand as long as it fits into 64
bits; a numeral without point and exponent whose digits all fit is a whole number.
-/

namespace LiveService.Json

def digitValue (octet : UInt8) : Nat := octet.toNat - 0x30

def gather (significand : Nat) : Bytes → Nat × Nat
  | [] => (significand, 0)
  | digit :: rest =>
    let next := 10 * significand + digitValue digit
    if next < UInt64.size then
      let (gathered, count) := gather next rest
      (gathered, count + 1)
    else (significand, 0)

def naturalOf (digits : Bytes) : Nat :=
  digits.foldl (fun value digit => 10 * value + digitValue digit) 0

def powerOfTen (exponent : Nat) : Float := Float.ofScientific 1 false exponent

/-- Divides by `10 ^ 308` until the rest of a negative exponent is a power of ten of the format. -/
def scaleDown : Nat → Float → Nat → Float
  | 0, value, exponent => value / powerOfTen exponent
  | steps + 1, value, exponent =>
    if exponent ≤ 308 then value / powerOfTen exponent
    else if value == 0 then value
    else scaleDown steps (value / powerOfTen 308) (exponent - 308)

def scaled? (significand : Nat) (exponent : Int) : Option Float :=
  let value := Float.ofNat significand
  if exponent < 0 then some (scaleDown (exponent.natAbs / 308 + 1) value exponent.natAbs)
  else if 308 < exponent then if value == 0 then some value else none
  else
    let product := value * powerOfTen exponent.natAbs
    if product.isInf then none else some product

def exponentLimit : Nat := UInt32.size / 2 - 1

def Numeral.magnitude? (numeral : Numeral) : Option Float :=
  let (wholePart, wholeCount) := gather 0 numeral.whole
  let dropped : Int := Int.ofNat (numeral.whole.length - wholeCount)
  let (significand, fractionCount) := gather wholePart (numeral.fraction.getD [])
  let start := dropped - Int.ofNat fractionCount
  match numeral.exponent with
  | none => scaled? significand start
  | some (negative, digits) =>
    let exponent := naturalOf digits
    if exponentLimit < exponent then
      if significand != 0 && !negative then none else some 0
    else scaled? significand (if negative then start - exponent else start + exponent)

/-- The number of a numeral, unless it is out of range.  A negative zero is no whole number. -/
def Numeral.number? (numeral : Numeral) : Option Number :=
  let natural := naturalOf numeral.whole
  let isWhole := numeral.fraction.isNone && numeral.exponent.isNone && natural < UInt64.size
  if isWhole && !numeral.negative then some (.integer natural)
  else if isWhole && 0 < natural && natural ≤ UInt64.size / 2 then some (.integer (-natural))
  else numeral.magnitude?.map fun magnitude =>
    .float (if numeral.negative then -magnitude else magnitude)

end LiveService.Json
