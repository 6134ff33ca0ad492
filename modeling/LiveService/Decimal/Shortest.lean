/-!
The shortest decimal that reads back as a given binary number.  A positive number is a significand
times a power of two; a decimal stands for it when it lies in the interval that rounds to it.  The
coarsest power of ten with a multiple in that interval gives the shortest decimal, and of two such
multiples the nearer one is taken.
-/

namespace LiveService

structure Decimal where
  coefficient : Nat
  exponent : Int

namespace Decimal

structure Interval where
  lower : Nat
  value : Nat
  upper : Nat
  denominator : Nat
  closed : Bool

/-- The interval of `significand * 2 ^ exponent`; below a power of two the neighbours lie closer. -/
def Interval.of (significand : Nat) (exponent : Int) (closerBelow : Bool) : Interval :=
  let scale := Nat.pow 2 (exponent - 2).toNat
  { lower := (4 * significand - if closerBelow then 1 else 2) * scale
    value := 4 * significand * scale
    upper := (4 * significand + 2) * scale
    denominator := Nat.pow 2 (2 - exponent).toNat
    closed := significand % 2 == 0 }

def Interval.contains (interval : Interval) (decimal : Decimal) : Bool :=
  let point := decimal.coefficient * Nat.pow 10 decimal.exponent.toNat * interval.denominator
  let unit := Nat.pow 10 (-decimal.exponent).toNat
  if interval.closed then interval.lower * unit ≤ point && point ≤ interval.upper * unit
  else interval.lower * unit < point && point < interval.upper * unit

def Interval.nearest? (interval : Interval) (exponent : Int) : Option Decimal :=
  let step := Nat.pow 10 exponent.toNat * interval.denominator
  let scaled := interval.value * Nat.pow 10 (-exponent).toNat
  let below : Decimal := ⟨scaled / step, exponent⟩
  let above : Decimal := ⟨scaled / step + 1, exponent⟩
  let rest := 2 * (scaled % step)
  let belowFits := below.coefficient != 0 && interval.contains below
  let aboveFits := interval.contains above
  let belowNearer := rest < step || (rest == step && below.coefficient % 2 == 0)
  if belowFits && (belowNearer || !aboveFits) then some below
  else if aboveFits then some above
  else none

def Interval.search (interval : Interval) : Nat → Int → Decimal
  | 0, exponent => ⟨interval.value * Nat.pow 10 (-exponent).toNat / interval.denominator, exponent⟩
  | steps + 1, exponent =>
    match interval.nearest? exponent with
    | some decimal => decimal
    | none => interval.search steps (exponent - 1)

def Interval.ceiling (interval : Interval) : Int :=
  if interval.denominator ≤ interval.value then
    (Nat.toDigits 10 (interval.value / interval.denominator)).length
  else
    1 - (Nat.toDigits 10 (interval.denominator / interval.value)).length

/-- The shortest decimal for a positive number; eighteen powers of ten always suffice. -/
def shortest (significand : Nat) (exponent : Int) (closerBelow : Bool) : Decimal :=
  let interval := Interval.of significand exponent closerBelow
  interval.search 20 (interval.ceiling + 1)

end Decimal

end LiveService
