import Bookmarks.Keyed
import Bookmarks.Decimal.Reading

/-!
JSON values. Whole numbers are kept exactly as long as 64 bits hold them, with or without a sign; all
other numbers are binary.
-/
set_option autoImplicit false

namespace Bookmarks.Json

open Bookmarks.Decimal (Literal natOfDigits)

inductive Number where
  | int (n : Int)
  | float (x : Float)
deriving Repr

def Number.ofLiteral? (l : Literal) : Option Number :=
  let whole := natOfDigits l.whole
  let isWhole := l.fraction.isNone && l.exponent.isNone
  if isWhole && !l.negative && whole < 0x10000000000000000 then some (.int whole)
  else if isWhole && l.negative && 0 < whole && whole ≤ 0x8000000000000000 then some (.int (-whole))
  else l.float?.map .float

def Number.toFloat : Number → Float
  | .int n => Float.ofInt n
  | .float x => x

inductive Value where
  | null
  | bool (b : Bool)
  | num (n : Number)
  | str (s : String)
  | arr (items : List Value)
  | obj (members : List (String × Value))
deriving Repr, Inhabited

namespace Value

def int (n : Int) : Value := .num (.int n)

def nat (n : Nat) : Value := .num (.int n)

def float (x : Float) : Value := .num (.float x)

def isNull : Value → Bool
  | .null => true
  | _ => false

-- An object with its members in ascending order; of two under one name the last counts.
def ofMembers (members : List (String × Value)) : Value := .obj (Keyed.ofList members).entries

def members : Value → List (String × Value)
  | .obj members => members
  | _ => []

def member? (value : Value) (name : String) : Option Value := Keyed.lookup name value.members

def optional {α : Type} (name : String) (encode : α → Value) :
    Option α → List (String × Value)
  | some a => [(name, encode a)]
  | none => []

def given (name : String) (value : Option Value) : List (String × Value) :=
  optional name (fun value => value) value

def orNull {α : Type} (encode : α → Value) : Option α → Value
  | some a => encode a
  | none => .null

def strings (texts : List String) : Value := .arr (texts.map .str)

def ofKeyed {α : Type} (encode : α → Value) (table : Keyed α) : Value :=
  .obj (table.entries.map fun entry => (entry.1, encode entry.2))

end Value

end Bookmarks.Json
