import Bookmarks.Batch.Violation
import Bookmarks.Operation.Basic
import Bookmarks.Order
import Bookmarks.Tree.Basic
import Bookmarks.Url.WebAddress

/-!
Trees as one draws them: a node has its children below it, in their order. What the operations do to such a
tree, and the rules that an operation has to obey in it, in the order in which they are checked.
-/
set_option autoImplicit false

namespace Bookmarks

-- A node that a batch adds has no name yet.
inductive Outline where
  | node (name : Option String) (kind : Kind) (children : List Outline)

namespace Outline

def name : Outline → Option String
  | .node name _ _ => name

def kind : Outline → Kind
  | .node _ kind _ => kind

def children : Outline → List Outline
  | .node _ _ children => children

mutual

-- The part of a tree from a node on.
def find? (id : String) : Outline → Option Outline
  | .node name kind children =>
    if name = some id then some (.node name kind children) else findAmong? id children

def findAmong? (id : String) : List Outline → Option Outline
  | [] => none
  | outline :: rest => (find? id outline).or (findAmong? id rest)

end

mutual

-- Cuts a node off, with all below it.
def prune (id : String) : Outline → Outline
  | .node name kind children => .node name kind (pruneAmong id children)

def pruneAmong (id : String) : List Outline → List Outline
  | [] => []
  | outline :: rest =>
    if outline.name = some id then pruneAmong id rest else prune id outline :: pruneAmong id rest

end

def placed (siblings : List Outline) (index : Option Int) (new : Outline) : List Outline :=
  siblings.insertIdx (Order.insertionPosition siblings.length index) new

mutual

-- Puts a tree among the children of a node.
def graft (parent : String) (index : Option Int) : Outline → Outline → Outline
  | .node name kind children, new =>
    let grafted := graftAmong parent index children new
    .node name kind (if name = some parent then placed grafted index new else grafted)

def graftAmong (parent : String) (index : Option Int) : List Outline → Outline → List Outline
  | [], _ => []
  | outline :: rest, new => graft parent index outline new :: graftAmong parent index rest new

end

def leaf (kind : Kind) : Outline := .node none kind []

def session (tabs : List Tab) : Outline := .node none .folder (tabs.map fun _ => leaf .bookmark)

def perform (outline : Outline) : Operation → Outline
  | .addFolder parentId _ index => outline.graft parentId index (leaf .folder)
  | .addBookmark parentId _ _ index => outline.graft parentId index (leaf .bookmark)
  | .renameNode _ _ => outline
  | .moveNode nodeId newParentId newIndex =>
    match outline.find? nodeId with
    | none => outline
    | some moved => (outline.prune nodeId).graft newParentId newIndex moved
  | .deleteNode nodeId _ => outline.prune nodeId
  | .updateBookmark _ _ _ => outline
  | .saveSession parentId _ tabs index => outline.graft parentId index (session tabs)

def after (outline : Outline) (batch : List Operation) : Outline := batch.foldl perform outline

end Outline

-- A condition, and what is reported where it does not hold.
structure Rule where
  holds : Bool
  violation : Violation

def Rule.broken (rule : Rule) : Bool := !rule.holds

namespace Outline

def childrenOf (outline : Outline) (id : String) : List Outline := ((outline.find? id).map children).getD []

def parentRule (outline : Outline) (parent : String) : Rule :=
  ⟨(outline.find? parent).any fun folder => folder.kind = .folder, .invalidParent parent⟩

-- No index is the end and always allowed.
def indexRules (siblings : List Outline) : Option Int → List Rule
  | none => []
  | some index => [⟨decide (0 ≤ index ∧ index ≤ siblings.length), .invalidIndex index siblings.length⟩]

def urlRule (url : String) : Rule := ⟨Url.isWebAddress url, .invalidUrl url⟩

def targetRules (outline : Outline) (id : String) : List Rule :=
  [⟨(outline.find? id).isSome, .invalidNode id⟩, ⟨decide (id ≠ rootId), .rootImmutable⟩]

def placeRules (outline : Outline) (parent : String) (index : Option Int) : List Rule :=
  outline.parentRule parent :: indexRules (outline.childrenOf parent) index

def bookmarkRule (outline : Outline) (id : String) : Rule :=
  ⟨(outline.find? id).any fun target => target.kind = .bookmark, .invalidNode id⟩

-- The part of the tree that is moved must not contain the place where it goes.
def cycleRule (outline : Outline) (id parent : String) : Rule :=
  ⟨(outline.find? id).all fun moved => (moved.find? parent).isNone, .cycleDetected id parent⟩

def rules (outline : Outline) : Operation → List Rule
  | .addFolder parentId _ index => outline.placeRules parentId index
  | .addBookmark parentId _ url index => outline.placeRules parentId index ++ [urlRule url]
  | .renameNode nodeId _ => outline.targetRules nodeId
  | .moveNode nodeId newParentId newIndex =>
    let others := (outline.childrenOf newParentId).filter fun child => child.name ≠ some nodeId
    outline.targetRules nodeId ++
      outline.cycleRule nodeId newParentId :: outline.parentRule newParentId :: indexRules others newIndex
  | .deleteNode nodeId _ => outline.targetRules nodeId
  | .updateBookmark nodeId _ url =>
    outline.targetRules nodeId ++ outline.bookmarkRule nodeId :: (url.map urlRule).toList
  | .saveSession parentId _ tabs index => outline.placeRules parentId index ++ tabs.map fun tab => urlRule tab.url

def Obeys (outline : Outline) (operation : Operation) : Prop :=
  ∀ rule ∈ outline.rules operation, rule.holds = true

end Outline

end Bookmarks
