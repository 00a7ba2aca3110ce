import Bookmarks.Text.Hex

/-!
The bits of binary floating-point numbers of 64 bits: a finite number is a significand times a power
of two.
-/
set_option autoImplicit false

namespace Bookmarks.Decimal

-- A non-negative finite number `significand * 2 ^ exponent`; `atEdge` says that its lower neighbour
-- is only half as far away as its upper one.
structure Scaled where
  significand : Nat
  exponent : Int
  atEdge : Bool
deriving Repr, DecidableEq

def fractionField (x : Float) : Nat := x.toBits.toNat % 0x10000000000000

def exponentField (x : Float) : Nat := x.toBits.toNat / 0x10000000000000 % 0x800

def isNegative (x : Float) : Bool := x.toBits.toNat / 0x8000000000000000 = 1

def isFinite (x : Float) : Bool := exponentField x != 2047

def scaled (x : Float) : Scaled :=
  match exponentField x with
  | 0 => ⟨fractionField x, -1074, false⟩
  | field + 1 => ⟨0x10000000000000 + fractionField x, field - 1074, fractionField x = 0 && field != 0⟩

-- A position of a number in the total order of all bit patterns: negative numbers below positive
-- ones, `-0.0` below `0.0`, and the patterns that are no numbers outside the infinities.
def orderKey (x : Float) : Int :=
  let pattern := (x.toBits.toNat : Int)
  if isNegative x then 0x7FFFFFFFFFFFFFFF - pattern else pattern

def compareTotal (x y : Float) : Ordering := compare (orderKey x) (orderKey y)

-- Sixteen hexadecimal digits; all patterns that are no numbers are written as one.
def bitsText (x : Float) : String :=
  let bits := if x.isNaN then 0x7ff8000000000000 else x.toBits.toNat
  String.ofList (Text.Hex.digits 16 bits)

end Bookmarks.Decimal
