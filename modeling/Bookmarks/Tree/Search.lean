import Bookmarks.Tree.Basic
import Bookmarks.Text.LowerCase
import Bookmarks.Text.Part

/-!
Looking for nodes by a part of their title or url, with no regard to case.
-/
set_option autoImplicit false

namespace Bookmarks

open Bookmarks.Text (lowerCase)

def mentions (query text : String) : Bool := isPart query.toList (lowerCase text).toList

def Node.mentions {ω : Type} (query : String) (node : Node ω) : Bool :=
  Bookmarks.mentions query node.title || node.url.any (Bookmarks.mentions query)

-- The first nodes, in the order of their ids, that contain the query.
def Tree.search {ω : Type} (tree : Tree ω) (query : String) (limit : Nat) : List (Node ω) :=
  let lowered := lowerCase query
  (tree.nodes.values.filter fun node => lowered.isEmpty || node.mentions lowered).take limit

def defaultSearchLimit : Nat := 50

def maxSearchLimit : Nat := 500

def clampLimit : Option Int → Nat
  | none => defaultSearchLimit
  | some limit => (max 1 (min limit maxSearchLimit)).toNat

end Bookmarks
