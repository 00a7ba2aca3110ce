import Bookmarks.Decimal.Reading
import Bookmarks.Text.Hex

/-!
Addresses of four bytes. A part of one may be written in decimal, octal or hexadecimal, and the last
part may stand for all bytes that are left.
-/
set_option autoImplicit false

namespace Bookmarks.Url.Ipv4

open Bookmarks.Decimal (natOfDigits)

def isOctalDigit (c : Char) : Bool := '0' ≤ c && c ≤ '7'

def inBase (base : Nat) (digits : List Char) : Nat :=
  digits.foldl (fun n c => base * n + (Text.Hex.digit? c).getD 0) 0

def number? (part : List Char) : Option Nat :=
  let read (base : Nat) (isDigit : Char → Bool) (digits : List Char) : Option Nat :=
    if digits.all isDigit then some (inBase base digits) else none
  match part with
  | [] => none
  | '0' :: 'x' :: digits => read 16 Text.Hex.isDigit digits
  | '0' :: 'X' :: digits => read 16 Text.Hex.isDigit digits
  | '0' :: c :: digits => read 8 isOctalDigit (c :: digits)
  | digits => read 10 Char.isDigit digits

-- The labels of a name without an empty one at the end.
def withoutEnd (labels : List (List Char)) : List (List Char) :=
  if labels.getLast? = some [] then labels.dropLast else labels

-- A name whose last label is a number has to be an address.
def isMeant (labels : List (List Char)) : Bool :=
  match (withoutEnd labels).getLast? with
  | none => false
  | some last => (!last.isEmpty && last.all Char.isDigit) || (number? last).isSome

def areBytes (numbers : List Nat) : Bool :=
  match numbers.getLast? with
  | none => false
  | some last => numbers.dropLast.all (· ≤ 255) && last < Nat.pow 256 (5 - numbers.length)

def isAddress (labels : List (List Char)) : Bool :=
  let parts := withoutEnd labels
  parts.length ≤ 4 && match parts.mapM number? with
    | none => false
    | some numbers => areBytes numbers

def isPlainByte (part : List Char) : Bool :=
  !part.isEmpty && part.all Char.isDigit && natOfDigits part ≤ 255 &&
  (part.head? != some '0' || part.length == 1)

def isPlain (text : List Char) : Bool :=
  let parts := text.splitOn '.'
  parts.length == 4 && parts.all isPlainByte

end Bookmarks.Url.Ipv4
