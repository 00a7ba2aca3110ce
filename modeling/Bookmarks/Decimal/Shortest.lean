import Bookmarks.Decimal.Binary

/-!
The fewest decimal digits that read back as a given binary number, and among those the nearest to it.
All arithmetic is exact.
-/
set_option autoImplicit false

namespace Bookmarks.Decimal

structure Digits where
  digits : Nat
  exponent : Int
deriving Repr, DecidableEq

-- A number and the ends of the interval of numbers that round to it, over one denominator.
structure Interval where
  low : Nat
  value : Nat
  high : Nat
  denominator : Nat
  closed : Bool
deriving Repr

def Scaled.interval (x : Scaled) (exponent : Int) : Interval :=
  let binary := x.exponent - 2
  let factor := Nat.pow 2 binary.toNat * Nat.pow 10 (-exponent).toNat
  let below := if x.atEdge then 1 else 2
  { low := (4 * x.significand - below) * factor
    value := 4 * x.significand * factor
    high := (4 * x.significand + 2) * factor
    denominator := Nat.pow 2 (-binary).toNat * Nat.pow 10 exponent.toNat
    closed := x.significand % 2 = 0 }

def Interval.holds (r : Interval) (n : Nat) : Bool :=
  if r.closed then r.low ≤ n * r.denominator && n * r.denominator ≤ r.high
  else r.low < n * r.denominator && n * r.denominator < r.high

-- The whole number in the interval that is nearest to its value, an even one of two.
def Interval.nearest? (r : Interval) : Option Nat :=
  let below := r.value / r.denominator
  let short := r.value - below * r.denominator
  let excess := (below + 1) * r.denominator - r.value
  match r.holds below, r.holds (below + 1) with
  | true, true =>
    some (if short < excess || (short = excess && below % 2 = 0) then below else below + 1)
  | true, false => some below
  | false, true => some (below + 1)
  | false, false => none

def digitCount (n : Nat) : Nat := (Nat.toDigits 10 n).length

def leadingPower (numerator denominator : Nat) : Int :=
  let guess : Int := (digitCount numerator : Int) - digitCount denominator
  if numerator * Nat.pow 10 (-guess).toNat < denominator * Nat.pow 10 guess.toNat then guess - 1 else guess

-- Tries ever more digits, at most `more` further ones, the last of them at `exponent`.
def refine (x : Scaled) : Nat → Int → Digits
  | 0, exponent =>
    let r := x.interval exponent
    ⟨r.value / r.denominator, exponent⟩
  | more + 1, exponent =>
    match (x.interval exponent).nearest? with
    | some n => ⟨n, exponent⟩
    | none => refine x more (exponent - 1)

def Digits.withoutZeros (d : Digits) : Digits :=
  if multiple : d.digits ≠ 0 ∧ d.digits % 10 = 0 then
    withoutZeros ⟨d.digits / 10, d.exponent + 1⟩
  else d
termination_by d.digits
decreasing_by omega

def shortest (x : Scaled) : Digits :=
  if x.significand = 0 then ⟨0, 0⟩
  else
    let whole := x.interval 0
    (refine x 20 (leadingPower whole.value whole.denominator)).withoutZeros

end Bookmarks.Decimal
