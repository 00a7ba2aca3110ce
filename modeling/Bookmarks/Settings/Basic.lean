import Bookmarks.Text.LowerCase
import Bookmarks.Toml.Node

/-!
Settings under names, as several sources give them. The names are in lower case. What a later source
says replaces what an earlier one has said, name by name where both have groups.
-/
set_option autoImplicit false

namespace Bookmarks

inductive Setting where
  | nothing
  | text (s : String)
  | integer (n : Int)
  | float (x : Float)
  | boolean (b : Bool)
  | list (items : List Setting)
  | group (entries : List (String × Setting))

namespace Setting

open Bookmarks.Toml (Node)

mutual

def ofNode : Node → Setting
  | .text s => .text s
  | .integer n => .integer n
  | .float x => .float x
  | .boolean b => .boolean b
  | .array items => .list (ofNodes items)
  | .table _ entries => .group (ofEntries entries)
  | .tables each => .list (ofTables each)

def ofNodes : List Node → List Setting
  | [] => []
  | item :: rest => ofNode item :: ofNodes rest

def ofEntries : List (String × Node) → List (String × Setting)
  | [] => []
  | entry :: rest => (entry.1, ofNode entry.2) :: ofEntries rest

def ofTables : List (List (String × Node)) → List Setting
  | [] => []
  | entries :: rest => .group (ofEntries entries) :: ofTables rest

end

def entries : Setting → List (String × Setting)
  | .group entries => entries
  | _ => []

def items : Setting → List Setting
  | .list items => items
  | _ => []

def under? (setting : Setting) (name : String) : Option Setting :=
  Keyed.lookup name setting.entries

mutual

-- What a name stands for when it is given once more. A group is put into the one that is there, and
-- replaces anything else unless it is empty.
def merged (existing : Option Setting) : Setting → Setting
  | .group entries => mergedAll (existing.getD (.group [])) entries
  | incoming => incoming

def mergedAll (existing : Setting) : List (String × Setting) → Setting
  | [] => existing
  | entry :: rest =>
    let name := Text.lowerCase entry.1
    mergedAll (.group (Keyed.place name (merged (existing.under? name) entry.2) existing.entries)) rest

end

-- Changes one item of a list, which is filled up with nothing as far as needed.
def changeItem (index : Nat) (f : Setting → Setting) (items : List Setting) : List Setting :=
  let filled := items ++ List.replicate (index + 1 - items.length) nothing
  filled.modify index f

end Setting

end Bookmarks
