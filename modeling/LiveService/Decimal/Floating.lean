import LiveService.Decimal.Shortest

/-!
The text of a finite binary number: its shortest decimal, written out or with an exponent.
-/

namespace LiveService.Decimal

structure Parts where
  negative : Bool
  significand : Nat
  exponent : Int
  closerBelow : Bool

def Parts.ofFloat (number : Float) : Parts :=
  let word : Nat := number.toBits.toNat
  let hidden := Nat.pow 2 52
  let fraction : Nat := word % hidden
  let biased : Nat := word / hidden % Nat.pow 2 11
  { negative := word / Nat.pow 2 63 == 1
    significand := if biased == 0 then fraction else hidden + fraction
    exponent := if biased == 0 then -1074 else Int.ofNat biased - 1075
    closerBelow := fraction == 0 && 1 < biased }

structure FloatStyle where
  leastPositional : Int
  firstScientific : Int

/-- Documents write out numbers from `0.00001` up to, and not including, ten to the sixteenth. -/
def documentStyle : FloatStyle := ⟨-5, 16⟩

def zeros (count : Nat) : List Char := List.replicate count '0'

def significantDigits (coefficient : Nat) : List Char :=
  ((Nat.toDigits 10 coefficient).reverse.dropWhile (· == '0')).reverse

/-- Writes digits whose first one counts units of `10 ^ exponent`. -/
def FloatStyle.render (style : FloatStyle) (digits : List Char) (exponent : Int) : List Char :=
  if exponent < style.leastPositional || style.firstScientific ≤ exponent then
    let tail := digits.drop 1
    let mark := if exponent < 0 then '-' else '+'
    digits.take 1 ++ (if tail.isEmpty then [] else '.' :: tail) ++
      'e' :: mark :: Nat.toDigits 10 exponent.natAbs
  else if exponent < 0 then
    ['0', '.'] ++ zeros (-exponent - 1).toNat ++ digits
  else
    let whole := exponent.toNat + 1
    let tail := digits.drop whole
    digits.take whole ++ zeros (whole - digits.length) ++ '.' :: (if tail.isEmpty then ['0'] else tail)

def FloatStyle.text (style : FloatStyle) (number : Float) : String :=
  let parts := Parts.ofFloat number
  let body :=
    if parts.significand == 0 then ['0', '.', '0']
    else
      let decimal := shortest parts.significand parts.exponent parts.closerBelow
      let exponent := decimal.exponent + (Nat.toDigits 10 decimal.coefficient).length - 1
      style.render (significantDigits decimal.coefficient) exponent
  String.ofList (if parts.negative then '-' :: body else body)

end LiveService.Decimal
