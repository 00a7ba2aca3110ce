import Bookmarks.Tree.Basic

/-!
What a tree will look like after the operations of a batch that have been checked so far. Nodes that
the batch adds have no id yet; here they go by their number.
-/
set_option autoImplicit false

namespace Bookmarks

structure Place where
  kind : Kind
  parent : Option String
deriving DecidableEq, Repr

structure Projection where
  nodes : Keyed Place
  children : Keyed (List String)
  pending : Nat

namespace Projection

def ofTree {ω : Type} (tree : Tree ω) : Projection where
  nodes := Keyed.ofList (tree.nodes.values.map fun node => (node.id, ⟨node.kind, node.parentId⟩))
  children := tree.children
  pending := 0

def childrenOf (p : Projection) (id : String) : List String := (p.children.get? id).getD []

def parentOf (p : Projection) (id : String) : Option String := (p.nodes.get? id).bind (·.parent)

-- Goes up from an id, at most so many steps; a chain of parents that is longer counts as endless,
-- and an endless chain as one that meets everything.
def meets (p : Projection) (ancestor : String) : Nat → Option String → Bool
  | _, none => false
  | steps, some id =>
    if id = ancestor then true
    else
      match steps with
      | 0 => true
      | steps + 1 => meets p ancestor steps (p.parentOf id)

def isDescendant (p : Projection) (candidate ancestor : String) : Bool :=
  p.meets ancestor p.nodes.size (p.parentOf candidate)

def siblingCount (p : Projection) (parent : String) (left : Option String) : Nat :=
  ((p.childrenOf parent).filter fun id => some id != left).length

def attach (p : Projection) (id parent : String) (index : Option Int) : Projection :=
  let siblings := p.childrenOf parent
  let position := Order.insertionPosition siblings.length index
  { p with children := p.children.insert parent (siblings.insertIdx position id) }

def detach (p : Projection) (id : String) : Projection :=
  match p.parentOf id with
  | none => p
  | some parent =>
    { p with children := p.children.modify parent fun siblings => siblings.filter (· != id) }

def pendingId (number : Nat) : String := "pending:" ++ toString number

def add (p : Projection) (parent : String) (kind : Kind) (index : Option Int) :
    Projection × String :=
  let number := p.pending + 1
  let id := pendingId number
  let added : Projection := { p with nodes := p.nodes.insert id ⟨kind, some parent⟩, pending := number }
  (added.attach id parent index, id)

def relink (p : Projection) (id parent : String) (index : Option Int) : Projection :=
  let detached := p.detach id
  { detached with nodes := detached.nodes.modify id fun place => { place with parent := some parent } }
    |>.attach id parent index

-- Removes ids and all that the lists of children lead to from them.
def removeAll (nodes : Keyed Place) (children : Keyed (List String)) :
    List String → Keyed Place × Keyed (List String)
  | [] => (nodes, children)
  | id :: rest =>
    match _found : children.get? id with
    | some below => removeAll (nodes.erase id) (children.erase id) (below ++ rest)
    | none => removeAll (nodes.erase id) children rest
termination_by ids => (children.size, ids.length)
decreasing_by
  · exact Prod.Lex.left _ _ (Keyed.size_erase_lt _found)
  · exact Prod.Lex.right _ (by simp)

def removeSubtree (p : Projection) (id : String) : Projection :=
  let detached := p.detach id
  let (nodes, children) := removeAll detached.nodes detached.children [id]
  { detached with nodes, children }

end Projection

end Bookmarks
