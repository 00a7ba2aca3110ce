import Bookmarks.Decimal.Reading
import Bookmarks.Text.Hex
import Bookmarks.Toml.Node

/-!
The values that are written as one word: truth values, numbers, dates and times.
-/
set_option autoImplicit false

namespace Bookmarks.Toml

-- Digits, with single underscores between them.
def separated? (isDigit : Char → Bool) : List Char → Option (List Char)
  | [] => none
  | [c] => if isDigit c then some [c] else none
  | c :: '_' :: rest => if isDigit c then (separated? isDigit rest).map (c :: ·) else none
  | c :: rest => if isDigit c then (separated? isDigit rest).map (c :: ·) else none

def signed : List Char → Bool × List Char
  | '-' :: rest => (true, rest)
  | '+' :: rest => (false, rest)
  | word => (false, word)

-- Decimal digits without a needless zero in front.
def whole? (word : List Char) : Option (List Char) :=
  (separated? Char.isDigit word).filter fun digits => digits.length = 1 || digits.head? ≠ some '0'

def inRange (n : Int) : Option Node :=
  if -0x8000000000000000 ≤ n ∧ n < 0x8000000000000000 then some (.integer n) else none

def based? (base : Nat) (word : List Char) : Option Node := do
  let digits ← separated? (fun c => decide ((Text.Hex.digit? c).getD base < base)) word
  inRange (digits.foldl (fun n c => base * n + (Text.Hex.digit? c).getD 0) 0 : Nat)

def integer? : List Char → Option Node
  | '0' :: 'x' :: rest => based? 16 rest
  | '0' :: 'o' :: rest => based? 8 rest
  | '0' :: 'b' :: rest => based? 2 rest
  | word => do
    let (negative, rest) := signed word
    let n : Int := Decimal.natOfDigits (← whole? rest)
    inRange (if negative then -n else n)

-- The float next to `digits * 10 ^ exponent`. Beyond four hundred places it is zero or infinite.
def scaled (digits : List Char) (exponent : Int) : Float :=
  let n := Decimal.natOfDigits digits
  let power := exponent + digits.length
  if n = 0 || power < -400 then 0
  else if 400 < power - (digits.takeWhile (· = '0')).length then 1 / 0
  else Float.ofScientific n (exponent < 0) exponent.natAbs

def exponent? (word : List Char) : Option Int := do
  let (negative, rest) := signed word
  let n : Int := Decimal.natOfDigits (← separated? Char.isDigit rest)
  return if negative then -n else n

-- A number with a fraction, an exponent or both. Only below zero may it be infinite.
def decimal? (word : List Char) : Option Node := do
  let (negative, rest) := signed word
  let isMark (c : Char) : Bool := c = 'e' || c = 'E'
  let mantissa := rest.takeWhile fun c => !isMark c
  let before := mantissa.takeWhile (· ≠ '.')
  let whole ← whole? before
  let fraction ← match mantissa.drop before.length with
    | [] => some []
    | _ :: fraction => separated? Char.isDigit fraction
  let exponent ← match rest.drop mantissa.length with
    | [] => if fraction.isEmpty then none else some 0
    | _ :: exponent => exponent? exponent
  let x := scaled (whole ++ fraction) (exponent - fraction.length)
  if negative then some (.float (-x)) else if x.isInf then none else some (.float x)

def special? (word : List Char) : Option Node :=
  let (negative, rest) := signed word
  if rest = ['i', 'n', 'f'] then some (.float (if negative then -1 / 0 else 1 / 0))
  else if rest = ['n', 'a', 'n'] then some (.float (0 / 0))
  else none

def isTwo (low high : Nat) (a b : Char) : Bool :=
  let n := Decimal.natOfDigits [a, b]
  a.isDigit && b.isDigit && low ≤ n && n ≤ high

def isLeap (year : Nat) : Bool := year % 4 = 0 && (year % 100 ≠ 0 || year % 400 = 0)

def daysIn (year month : Nat) : Nat :=
  if month = 2 then (if isLeap year then 29 else 28)
  else if month = 4 || month = 6 || month = 9 || month = 11 then 30
  else 31

def date? : List Char → Option (List Char × List Char)
  | a :: b :: c :: d :: '-' :: e :: f :: '-' :: g :: h :: rest =>
    let days := daysIn (Decimal.natOfDigits [a, b, c, d]) (Decimal.natOfDigits [e, f])
    if [a, b, c, d].all Char.isDigit && isTwo 1 12 e f && isTwo 1 days g h then
      some ([a, b, c, d, '-', e, f, '-', g, h], rest)
    else none
  | _ => none

-- The digits behind a full second: of nine places, without zeros at the end.
def secondsText (fraction : List Char) : List Char :=
  match ((fraction.take 9).reverse.dropWhile (· = '0')).reverse with
  | [] => []
  | digits => '.' :: digits

def time? : List Char → Option (List Char × List Char)
  | a :: b :: ':' :: c :: d :: ':' :: e :: f :: rest =>
    if isTwo 0 23 a b && isTwo 0 59 c d && isTwo 0 60 e f then
      let clock := [a, b, ':', c, d, ':', e, f]
      match rest with
      | '.' :: more =>
        let fraction := more.takeWhile Char.isDigit
        if fraction.isEmpty then none
        else some (clock ++ secondsText fraction, more.drop fraction.length)
      | _ => some (clock, rest)
    else none
  | _ => none

-- How far the time is ahead of the universal one; `-00:00` is not behind it.
def offset? : List Char → Option (List Char)
  | [] => some []
  | [c] => if c = 'Z' || c = 'z' then some ['Z'] else none
  | [sign, a, b, ':', c, d] =>
    if (sign = '+' || sign = '-') && isTwo 0 23 a b && isTwo 0 59 c d then
      let sign := if [a, b, c, d].all (· = '0') then '+' else sign
      some [sign, a, b, ':', c, d]
    else none
  | _ => none

def moment? (word : List Char) : Option Node :=
  match date? word with
  | some (date, []) => some (.text (String.ofList date))
  | some (date, mark :: rest) => do
    if !(mark = 'T' || mark = 't' || mark = ' ') then none
    let (time, rest) ← time? rest
    let offset ← offset? rest
    return .text (String.ofList (date ++ 'T' :: time ++ offset))
  | none =>
    match time? word with
    | some (time, []) => some (.text (String.ofList time))
    | _ => none

def scalar? (word : List Char) : Option Node :=
  if word = "true".toList then some (.boolean true)
  else if word = "false".toList then some (.boolean false)
  else (special? word).or ((moment? word).or ((integer? word).or (decimal? word)))

def isWordChar (c : Char) : Bool :=
  c.isAlphanum || c = '_' || c = '+' || c = '-' || c = '.' || c = ':'

-- The first word of a text, and the rest. A date and a time with a space between them are one word.
def word (text : List Char) : List Char × List Char :=
  let first := text.takeWhile isWordChar
  match date? first, text.drop first.length with
  | some (_, []), ' ' :: a :: b :: ':' :: rest =>
    if a.isDigit && b.isDigit then
      let second := rest.takeWhile isWordChar
      (first ++ ' ' :: a :: b :: ':' :: second, rest.drop second.length)
    else (first, ' ' :: a :: b :: ':' :: rest)
  | _, rest => (first, rest)

end Bookmarks.Toml
