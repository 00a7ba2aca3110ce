/-!
Hexadecimal digits of numbers and of bytes. They are written in lower case and read in both.
-/
set_option autoImplicit false

namespace Bookmarks.Text.Hex

def digit? (c : Char) : Option Nat :=
  if '0' ≤ c ∧ c ≤ '9' then some (c.toNat - '0'.toNat)
  else if 'a' ≤ c ∧ c ≤ 'f' then some (c.toNat - 'a'.toNat + 10)
  else if 'A' ≤ c ∧ c ≤ 'F' then some (c.toNat - 'A'.toNat + 10)
  else none

def isDigit (c : Char) : Bool := (digit? c).isSome

def number (digits : List Char) : Nat :=
  digits.foldl (fun n c => 16 * n + (digit? c).getD 0) 0

def digits : Nat → Nat → List Char
  | 0, _ => []
  | places + 1, n => digits places (n / 16) ++ [Nat.digitChar (n % 16)]

def ofBytes (bytes : List UInt8) : String :=
  String.ofList (bytes.flatMap fun b => digits 2 b.toNat)

def bytes : List Char → List UInt8
  | a :: b :: rest => (number [a, b]).toUInt8 :: bytes rest
  | _ => []

end Bookmarks.Text.Hex
