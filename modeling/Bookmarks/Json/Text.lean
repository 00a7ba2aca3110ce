import Bookmarks.Json.Value
import Bookmarks.Decimal.Notation
import Bookmarks.Text.Hex

/-!
JSON values as text, in one line or with one entry a line. Members are written in the order in which
they stand. There is no text for infinite numbers and for what is no number: they are written as null.
-/
set_option autoImplicit false

namespace Bookmarks.Json

open Bookmarks.Decimal (floatText intText isFinite)

def hexEscape (c : Char) : List Char := '\\' :: 'u' :: Text.Hex.digits 4 c.toNat

def escape (c : Char) : List Char :=
  match c with
  | '"' => ['\\', '"']
  | '\\' => ['\\', '\\']
  | '\x08' => ['\\', 'b']
  | '\t' => ['\\', 't']
  | '\n' => ['\\', 'n']
  | '\x0c' => ['\\', 'f']
  | '\r' => ['\\', 'r']
  | _ => if c.toNat < 0x20 then hexEscape c else [c]

def literal (text : String) : String := String.ofList ('"' :: text.toList.flatMap escape ++ ['"'])

def Number.text : Number → String
  | .int n => intText n
  | .float x => if isFinite x then floatText x else "null"

namespace Value

def atomText : Value → String
  | .null => "null"
  | .bool b => if b then "true" else "false"
  | .num n => n.text
  | .str s => literal s
  | .arr _ => "[]"
  | .obj _ => "\x7b\x7d"

mutual

def compact : Value → String
  | .arr items => "[" ++ compactItems items ++ "]"
  | .obj members => "\x7b" ++ compactMembers members ++ "\x7d"
  | atom => atom.atomText

def compactItems : List Value → String
  | [] => ""
  | [last] => compact last
  | item :: rest => compact item ++ "," ++ compactItems rest

def compactMembers : List (String × Value) → String
  | [] => ""
  | [last] => literal last.1 ++ ":" ++ compact last.2
  | member :: rest => literal member.1 ++ ":" ++ compact member.2 ++ "," ++ compactMembers rest

end

def newLine (level : Nat) : String := String.ofList ('\n' :: List.replicate (2 * level) ' ')

mutual

def pretty (level : Nat) : Value → String
  | .arr (item :: rest) =>
    "[" ++ prettyItems (level + 1) (item :: rest) ++ newLine level ++ "]"
  | .obj (member :: rest) =>
    "\x7b" ++ prettyMembers (level + 1) (member :: rest) ++ newLine level ++ "\x7d"
  | atom => atom.atomText

def prettyItems (level : Nat) : List Value → String
  | [] => ""
  | [last] => newLine level ++ pretty level last
  | item :: rest => newLine level ++ pretty level item ++ "," ++ prettyItems level rest

def prettyMembers (level : Nat) : List (String × Value) → String
  | [] => ""
  | [last] => newLine level ++ literal last.1 ++ ": " ++ pretty level last.2
  | member :: rest =>
    newLine level ++ literal member.1 ++ ": " ++ pretty level member.2 ++ "," ++
      prettyMembers level rest

end

end Value

end Bookmarks.Json
