import Bookmarks.Keyed
import Bookmarks.Order
import Bookmarks.Text.Quoted

/-!
The bookmark tree: nodes under their ids, and for each parent the ids of its children in the order in
which they are shown. `Tree.ofNodes` makes a tree of nodes alone.
-/
set_option autoImplicit false

namespace Bookmarks

def rootId : String := "root"

def uninitialized : String := "uninitialized"

inductive Kind where
  | folder
  | bookmark
deriving DecidableEq, Repr

def Kind.name : Kind → String
  | .folder => "folder"
  | .bookmark => "bookmark"

def Kind.named : List (String × Kind) := [("folder", .folder), ("bookmark", .bookmark)]

def Kind.ofName? (name : String) : Option Kind := Keyed.lookup name Kind.named

def Kind.complaint (name : String) : String := "unknown node kind: " ++ Text.quoted name

theorem Kind.ofName?_name (kind : Kind) : Kind.ofName? kind.name = some kind := by
  cases kind <;> decide

structure Node (ω : Type) where
  id : String
  kind : Kind
  title : String
  url : Option String
  parentId : Option String
  ord : ω
  createdAt : Int
  updatedAt : Int
deriving Repr

namespace Node

variable {ω : Type} [SiblingOrd ω]

def isFolder (node : Node ω) : Bool := node.kind = .folder

-- Equal in every field, ords as numbers.
def same (a b : Node ω) : Bool :=
  a.id == b.id && a.kind == b.kind && a.title == b.title && a.url == b.url &&
  a.parentId == b.parentId && SiblingOrd.same a.ord b.ord && a.createdAt == b.createdAt &&
  a.updatedAt == b.updatedAt

-- The order among siblings: by ord, by id where ords are equal.
def order (a b : Node ω) : Ordering := (SiblingOrd.order a.ord b.ord).then (compare a.id b.id)

def precedes (a b : Node ω) : Bool := a.order b != .gt

end Node

structure Tree (ω : Type) where
  version : String
  rootId : String
  nodes : Keyed (Node ω)
  children : Keyed (List String)

namespace Tree

variable {ω : Type} [SiblingOrd ω]

def idsBelow (nodes : Keyed (Node ω)) (parent : String) : List String :=
  ((nodes.values.filter fun node => node.parentId == some parent).mergeSort Node.precedes).map (·.id)

-- The tree of a list of nodes; of two with one id the last counts.
def ofNodes (version : String) (nodes : List (Node ω)) : Tree ω :=
  let table := Keyed.ofList (nodes.map fun node => (node.id, node))
  { version, rootId := Bookmarks.rootId, nodes := table
    children := Keyed.ofList (table.values.filterMap fun node =>
      node.parentId.map fun parent => (parent, idsBelow table parent)) }

def get? (tree : Tree ω) (id : String) : Option (Node ω) := tree.nodes.get? id

def childrenOf (tree : Tree ω) (id : String) : List String := (tree.children.get? id).getD []

def keeps (nodes : Keyed (Node ω)) (id : String) (node : Node ω) : Bool :=
  match nodes.get? id with
  | some other => node.same other
  | none => false

def changedSince (tree earlier : Tree ω) : List String :=
  let changed := tree.nodes.entries.filter fun entry => !keeps earlier.nodes entry.1 entry.2
  let gone := earlier.nodes.entries.filter fun entry => !tree.nodes.contains entry.1
  (Keyed.ofList ((changed ++ gone).map fun entry => (entry.1, ()))).keys

end Tree

end Bookmarks
