import Bookmarks.Decimal.Shortest

/-!
How numbers are written. Documents and messages use `floatText`: positional while the first digit
stands for a power of ten from -5 to 15, with a point always, else scientific with a signed exponent.
Settings that are turned into text use `plainText`: positional always, and a point only before a
fraction.
-/
set_option autoImplicit false

namespace Bookmarks.Decimal

def digitsText (n : Nat) : List Char := Nat.toDigits 10 n

def Digits.power (d : Digits) : Int := d.exponent + digitCount d.digits - 1

def Digits.positional (d : Digits) : List Char × List Char :=
  let text := digitsText d.digits
  let behind := (-d.exponent).toNat
  if behind = 0 then (text ++ List.replicate d.exponent.toNat '0', [])
  else
    let padded := List.replicate (behind + 1 - text.length) '0' ++ text
    padded.splitAt (padded.length - behind)

def Digits.scientific (d : Digits) : List Char :=
  let exponent := if d.power < 0 then '-' :: digitsText d.power.natAbs
    else '+' :: digitsText d.power.toNat
  match digitsText d.digits with
  | [] => []
  | [first] => first :: 'e' :: exponent
  | first :: rest => first :: '.' :: rest ++ 'e' :: exponent

def magnitudeText (d : Digits) : List Char :=
  if d.digits = 0 || (-5 ≤ d.power && d.power ≤ 15) then
    let (whole, fraction) := d.positional
    whole ++ '.' :: (if fraction.isEmpty then ['0'] else fraction)
  else d.scientific

def floatText (x : Float) : String :=
  String.ofList ((if isNegative x then ['-'] else []) ++ magnitudeText (shortest (scaled x)))

def plainText (x : Float) : String :=
  if x.isNaN then "NaN"
  else
    let sign := if isNegative x then ['-'] else []
    if isFinite x then
      let (whole, fraction) := (shortest (scaled x)).positional
      String.ofList (sign ++ whole ++ (if fraction.isEmpty then [] else '.' :: fraction))
    else String.ofList (sign ++ ['i', 'n', 'f'])

def intText (n : Int) : String :=
  if n < 0 then String.ofList ('-' :: digitsText n.natAbs) else String.ofList (digitsText n.toNat)

end Bookmarks.Decimal
