import Bookmarks.Json.Document
import Bookmarks.Decimal.Notation
import Bookmarks.Text.Quoted

/-!
What can be wrong with a JSON value that is read as something particular: its text, or its shape.
-/
set_option autoImplicit false

namespace Bookmarks.Json

open Bookmarks.Decimal (floatText intText)
open Bookmarks.Text (quoted)

inductive Amount where
  | fieldsOf (name : String) (count : Nat)
  | fewerItems
  | items (count : Nat)
deriving Repr, DecidableEq

inductive ShapeError where
  | missing (field : String)
  | duplicate (field : String)
  | type (found : Found) (expected : String)
  | integer (n : Int) (expected : String)
  | notOneKey
  | length (found : Nat) (expected : Amount)
  | variant (name : String) (known : List String)
deriving Repr

inductive Problem where
  | malformed
  | shape (error : ShapeError)
deriving Repr

def Found.text : Found → String
  | .null => "null"
  | .bool b => "boolean `" ++ (if b then "true" else "false") ++ "`"
  | .num (.int n) => "integer `" ++ intText n ++ "`"
  | .num (.float x) => "floating point `" ++ floatText x ++ "`"
  | .str s => "string " ++ quoted s
  | .sequence => "sequence"
  | .map => "map"

def counted (count : Nat) : String :=
  toString count ++ (if count = 1 then " element" else " elements")

def Amount.text : Amount → String
  | .fieldsOf name count => name ++ " with " ++ counted count
  | .fewerItems => "fewer elements in array"
  | .items count => counted count ++ " in sequence"

def ticked (name : String) : String := "`" ++ name ++ "`"

def alternatives : List String → String
  | [] => "there are no variants"
  | [only] => "expected " ++ ticked only
  | [one, other] => "expected " ++ ticked one ++ " or " ++ ticked other
  | names => "expected one of " ++ ", ".intercalate (names.map ticked)

def ShapeError.message : ShapeError → String
  | .missing field => "missing field " ++ ticked field
  | .duplicate field => "duplicate field " ++ ticked field
  | .type found expected => "invalid type: " ++ found.text ++ ", expected " ++ expected
  | .integer n expected =>
    "invalid value: integer " ++ ticked (intText n) ++ ", expected " ++ expected
  | .notOneKey => "invalid value: map, expected map with a single key"
  | .length found expected =>
    "invalid length " ++ toString found ++ ", expected " ++ expected.text
  | .variant name known => "unknown variant " ++ ticked name ++ ", " ++ alternatives known

def Problem.message : Problem → String
  | .malformed => "malformed text"
  | .shape error => error.message

end Bookmarks.Json
