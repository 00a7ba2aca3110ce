/-!
The value of a decimal literal. As many digits as fit into 64 bits are kept, the others only count
for their place; the kept ones are then scaled by one power of ten. A literal whose scaled value is
infinite has none.
-/
set_option autoImplicit false

namespace Bookmarks.Decimal

structure Literal where
  negative : Bool
  whole : List Char
  fraction : Option (List Char)
  exponent : Option (Bool × List Char)
deriving Repr, DecidableEq

structure Kept where
  digits : Nat := 0
  shift : Int := 0
  full : Bool := false

def Kept.add (k : Kept) (c : Char) : Kept :=
  let digits := 10 * k.digits + (c.toNat - '0'.toNat)
  if k.full || 0x10000000000000000 ≤ digits then { k with full := true } else { k with digits := digits }

-- A digit before the point: one that is left out still moves the others.
def Kept.addWhole (k : Kept) (c : Char) : Kept :=
  let next := k.add c
  if next.full then { next with shift := next.shift + 1 } else next

-- A digit behind the point: one that is kept moves the point.
def Kept.addFraction (k : Kept) (c : Char) : Kept :=
  let next := k.add c
  if next.full then next else { next with shift := next.shift - 1 }

def natOfDigits (digits : List Char) : Nat :=
  digits.foldl (fun n c => 10 * n + (c.toNat - '0'.toNat)) 0

def powerOfTen (n : Nat) : Float := Float.ofScientific 1 false n

-- Divides by the largest power of ten while the exponent is below what one division can do.
def scaleDown (x : Float) (exponent : Nat) : Float :=
  if exponent ≤ 308 then x / powerOfTen exponent
  else if x == 0 then x
  else scaleDown (x / powerOfTen 308) (exponent - 308)
termination_by exponent

def scale? (digits : Nat) (exponent : Int) : Option Float :=
  let x := Float.ofNat digits
  if exponent < 0 then some (scaleDown x exponent.natAbs)
  else if exponent ≤ 308 then
    let scaled := x * powerOfTen exponent.toNat
    if scaled.isInf then none else some scaled
  else if x == 0 then some x
  else none

-- Exponents saturate where they no longer matter.
def exponentLimit : Nat := 0x7FFFFFFF

def Literal.magnitude? (l : Literal) : Option Float :=
  let whole := l.whole.foldl Kept.addWhole {}
  let start : Kept := { whole with full := false }
  let kept := (l.fraction.getD []).foldl Kept.addFraction start
  match l.exponent with
  | none => scale? kept.digits kept.shift
  | some (negative, digits) =>
    let n := natOfDigits digits
    if exponentLimit < n then
      if kept.digits ≠ 0 && !negative then none else some 0
    else scale? kept.digits (if negative then kept.shift - n else kept.shift + n)

def Literal.float? (l : Literal) : Option Float :=
  l.magnitude?.map fun x => if l.negative then -x else x

end Bookmarks.Decimal
