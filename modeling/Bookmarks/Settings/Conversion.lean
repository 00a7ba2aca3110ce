import Bookmarks.Decimal.Notation
import Bookmarks.Decimal.Reading
import Bookmarks.Settings.Basic

/-!
Settings as values of the kind that is wanted. Text, numbers and truth values stand for one another
where they can.
-/
set_option autoImplicit false

namespace Bookmarks

inductive SettingError where
  | noFile
  | notToml
  | wrongKind
  | wrongShape
deriving DecidableEq, Repr

namespace Setting

def word? (s : String) : Option Bool :=
  let lower := Text.lowerCase s
  if lower = "true" || lower = "on" || lower = "yes" then some true
  else if lower = "false" || lower = "off" || lower = "no" then some false
  else none

def number? (withSign : Bool) (s : String) : Option Int :=
  let (negative, digits) := match s.toList with
    | '+' :: digits => (false, digits)
    | '-' :: digits => (true, digits)
    | digits => (false, digits)
  let n : Int := Decimal.natOfDigits digits
  if digits.isEmpty || !digits.all Char.isDigit || (negative && !withSign) then none
  else some (if negative then -n else n)

-- The whole number next to a float, a half going away from zero. The ends of 64 bits hold whatever
-- is beyond them, and what is no number counts as zero.
def rounded (withSign : Bool) (x : Float) : Int :=
  if withSign then x.round.toInt64.toInt else x.round.toUInt64.toNat

def toInteger (low high : Int) (setting : Setting) : Except SettingError Int :=
  let withSign := decide (low < 0)
  let number := match setting with
    | .integer n => some n
    | .boolean b => some (if b then 1 else 0)
    | .float x => some (rounded withSign x)
    | .text s =>
      match word? s with
      | some b => some (if b then 1 else 0)
      | none => number? withSign s
    | _ => none
  match number with
  | some n => if low ≤ n ∧ n ≤ high then .ok n else .error .wrongKind
  | none => .error .wrongKind

def toSigned : Setting → Except SettingError Int := toInteger (-0x80000000) 0x7FFFFFFF

def toUnsigned (setting : Setting) : Except SettingError Nat :=
  (setting.toInteger 0 0xFFFFFFFF).map Int.toNat

def toBoolean : Setting → Except SettingError Bool
  | .boolean b => .ok b
  | .integer n => .ok (n ≠ 0)
  | .float x => .ok (x != 0)
  | .text s =>
    if s = "1" then .ok true
    else if s = "0" then .ok false
    else
      match word? s with
      | some b => .ok b
      | none => .error .wrongKind
  | _ => .error .wrongKind

def toText : Setting → Except SettingError String
  | .text s => .ok s
  | .boolean b => .ok (if b then "true" else "false")
  | .integer n => .ok (Decimal.intText n)
  | .float x => .ok (Decimal.plainText x)
  | _ => .error .wrongKind

def toOptionalText : Setting → Except SettingError (Option String)
  | .nothing => .ok none
  | setting => setting.toText.map some

-- A section, in which each of some names may have a setting. A list gives them in the order of the
-- names.
def section? (names : List String) : Setting → Except SettingError (List (String × Setting))
  | .group entries => .ok entries
  | .list items => .ok (names.zip items)
  | _ => .error .wrongShape

def field {α : Type} (entries : List (String × Setting)) (name : String)
    (convert : Setting → Except SettingError α) (default : α) : Except SettingError α :=
  match Keyed.lookup name entries with
  | some setting => convert setting
  | none => .ok default

end Setting

end Bookmarks
