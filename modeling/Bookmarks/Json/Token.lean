import Bookmarks.Json.Value
import Bookmarks.Text.Hex
import Bookmarks.Text.Utf8

/-!
JSON text as tokens. A token that is well formed but stands for nothing (a number out of range, a
string that is no text) is still a token: only who needs its value minds. What is no token at all is
`bad`, and nothing is read behind it.
-/
set_option autoImplicit false

namespace Bookmarks.Json

open Bookmarks.Text (Glyph)
open Bookmarks.Decimal (Literal)

inductive Token where
  | openArray
  | closeArray
  | openObject
  | closeObject
  | colon
  | comma
  | null
  | bool (b : Bool)
  | num (n : Option Number)
  | str (s : Option String)
  | bad
deriving Repr

namespace Token

-- A part of a string literal: a character, a byte that belongs to none, or a unit of 16 bits.
inductive Piece where
  | plain (c : Char)
  | stray
  | unit (n : Nat)
deriving Repr, DecidableEq

def isHigh (n : Nat) : Bool := 0xd800 ≤ n && n < 0xdc00

def isLow (n : Nat) : Bool := 0xdc00 ≤ n && n < 0xe000

-- The text of a string literal: units above the basic plane come in pairs, high before low.
def textOf : List Piece → Option (List Char)
  | [] => some []
  | .plain c :: rest => (textOf rest).map (c :: ·)
  | .stray :: _ => none
  | .unit high :: .unit low :: rest =>
    if isHigh high then
      if isLow low then
        (textOf rest).map (Char.ofNat (0x10000 + (high - 0xd800) * 0x400 + (low - 0xdc00)) :: ·)
      else none
    else if isLow high then none
    else (textOf (.unit low :: rest)).map (Char.ofNat high :: ·)
  | .unit n :: rest =>
    if isHigh n || isLow n then none else (textOf rest).map (Char.ofNat n :: ·)

def hexDigit? (glyph : Glyph) : Option Nat := glyph.bind Text.Hex.digit?

def unit? (a b c d : Glyph) : Option Nat := do
  some ((((← hexDigit? a) * 16 + (← hexDigit? b)) * 16 + (← hexDigit? c)) * 16 + (← hexDigit? d))

def escaped? : Char → Option Char
  | '"' => some '"'
  | '\\' => some '\\'
  | '/' => some '/'
  | 'b' => some '\x08'
  | 'f' => some '\x0c'
  | 'n' => some '\n'
  | 'r' => some '\r'
  | 't' => some '\t'
  | _ => none

def prepend (piece : Piece) (glyphs : Nat) (found : Option (List Piece × Nat)) :
    Option (List Piece × Nat) :=
  found.map fun (pieces, length) => (piece :: pieces, length + glyphs)

-- The parts of a string literal after its opening quote, and its length with the closing one.
def pieces? : List Glyph → Option (List Piece × Nat)
  | [] => none
  | some '"' :: _ => some ([], 1)
  | some '\\' :: some 'u' :: a :: b :: c :: d :: rest =>
    match unit? a b c d with
    | some n => prepend (.unit n) 6 (pieces? rest)
    | none => none
  | some '\\' :: some c :: rest =>
    match escaped? c with
    | some escaped => prepend (.plain escaped) 2 (pieces? rest)
    | none => none
  | some '\\' :: _ => none
  | some c :: rest => if c.toNat < 0x20 then none else prepend (.plain c) 1 (pieces? rest)
  | none :: rest => prepend .stray 1 (pieces? rest)

def leadingDigits : List Glyph → List Char
  | some c :: rest => if c.isDigit then c :: leadingDigits rest else []
  | _ => []

-- The digits behind a point, if one comes next; a point needs digits.
def fraction? : List Glyph → Option (Option (List Char) × Nat)
  | some '.' :: rest =>
    match leadingDigits rest with
    | [] => none
    | digits => some (some digits, digits.length + 1)
  | _ => some (none, 0)

-- The exponent, if one comes next; a mark needs digits.
def exponent? : List Glyph → Option (Option (Bool × List Char) × Nat)
  | some mark :: rest =>
    if mark = 'e' ∨ mark = 'E' then
      let (negative, sign) := match rest with
        | some '-' :: _ => (true, 1)
        | some '+' :: _ => (false, 1)
        | _ => (false, 0)
      match leadingDigits (rest.drop sign) with
      | [] => none
      | digits => some (some (negative, digits), digits.length + sign + 1)
    else some (none, 0)
  | _ => some (none, 0)

-- A number without its sign, and its length. Only a lone zero may lead.
def literal? (negative : Bool) (text : List Glyph) : Option (Literal × Nat) :=
  let whole := leadingDigits text
  if whole.isEmpty || (whole.head? == some '0' && whole.length != 1) then none
  else do
    let (fraction, pointLength) ← fraction? (text.drop whole.length)
    let (exponent, markLength) ← exponent? (text.drop (whole.length + pointLength))
    some (⟨negative, whole, fraction, exponent⟩, whole.length + pointLength + markLength)

def number? (negative : Bool) (text : List Glyph) : Option (Token × Nat) :=
  (literal? negative text).map fun (literal, length) =>
    (.num (Number.ofLiteral? literal), length)

def word? (letters : String) (token : Token) (text : List Glyph) : Option (Token × Nat) :=
  if text.take letters.length = Text.glyphsOf letters then some (token, letters.length) else none

-- The token that begins with a glyph, and how many further glyphs it takes.
def after? (first : Glyph) (rest : List Glyph) : Option (Token × Nat) :=
  match first with
  | some '[' => some (.openArray, 0)
  | some ']' => some (.closeArray, 0)
  | some '\x7b' => some (.openObject, 0)
  | some '\x7d' => some (.closeObject, 0)
  | some ':' => some (.colon, 0)
  | some ',' => some (.comma, 0)
  | some '"' =>
    (pieces? rest).map fun (pieces, length) => (.str ((textOf pieces).map String.ofList), length)
  | some 'n' => word? "ull" .null rest
  | some 't' => word? "rue" (.bool true) rest
  | some 'f' => word? "alse" (.bool false) rest
  | some '-' => number? true rest
  | some c =>
    if c.isDigit then (number? false (first :: rest)).map fun (token, length) => (token, length - 1)
    else none
  | none => none

def isSpace (g : Glyph) : Bool :=
  g == some ' ' || g == some '\n' || g == some '\t' || g == some '\r'

def ofGlyphs : List Glyph → List Token
  | [] => []
  | first :: rest =>
    if isSpace first then ofGlyphs rest
    else
      match after? first rest with
      | some (token, further) => token :: ofGlyphs (rest.drop further)
      | none => [.bad]
termination_by text => text.length
decreasing_by
  · simp
  · simp only [List.length_drop, List.length_cons]; omega

end Token

end Bookmarks.Json
