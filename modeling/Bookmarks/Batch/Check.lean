import Bookmarks.Batch.Projection
import Bookmarks.Batch.Violation
import Bookmarks.Operation.Basic
import Bookmarks.Url.WebAddress

/-!
The check of a batch against a tree, before anything is stored. Each operation is checked against what
the ones before it will have made of the tree.
-/
set_option autoImplicit false

namespace Bookmarks

namespace Projection

def checkParent (p : Projection) (parentId : String) : Except Violation Unit :=
  match p.nodes.get? parentId with
  | some ⟨.folder, _⟩ => .ok ()
  | _ => .error (.invalidParent parentId)

-- An index has to be a position among the siblings, or their end; a node that moves is not one of
-- its own siblings.
def checkIndex (p : Projection) (parentId : String) (index : Option Int) (moving : Option String) :
    Except Violation Unit :=
  match index with
  | none => .ok ()
  | some index =>
    let max := p.siblingCount parentId moving
    if index < 0 ∨ max < index then .error (.invalidIndex index max) else .ok ()

def checkMutable (p : Projection) (nodeId : String) : Except Violation Place :=
  match p.nodes.get? nodeId with
  | none => .error (.invalidNode nodeId)
  | some place => if nodeId = rootId then .error .rootImmutable else .ok place

def checkUrl (url : String) : Except Violation Unit :=
  if Url.isWebAddress url then .ok () else .error (.invalidUrl url)

def checkUrls (tabs : List Tab) : Except Violation Unit := tabs.forM fun tab => checkUrl tab.url

def addTabs (p : Projection) (folder : String) (tabs : List Tab) : Projection :=
  tabs.foldl (fun p _ => (p.add folder .bookmark none).1) p

def apply (p : Projection) : Operation → Except Violation Projection
  | .addFolder parentId _ index => do
    p.checkParent parentId
    p.checkIndex parentId index none
    return (p.add parentId .folder index).1
  | .addBookmark parentId _ url index => do
    p.checkParent parentId
    p.checkIndex parentId index none
    checkUrl url
    return (p.add parentId .bookmark index).1
  | .renameNode nodeId _ => do
    let _ ← p.checkMutable nodeId
    return p
  | .moveNode nodeId newParentId newIndex => do
    let _ ← p.checkMutable nodeId
    if newParentId = nodeId ∨ p.isDescendant newParentId nodeId then
      throw (.cycleDetected nodeId newParentId)
    p.checkParent newParentId
    p.checkIndex newParentId newIndex (some nodeId)
    return p.relink nodeId newParentId newIndex
  | .deleteNode nodeId _ => do
    let _ ← p.checkMutable nodeId
    return p.removeSubtree nodeId
  | .updateBookmark nodeId _ url => do
    let place ← p.checkMutable nodeId
    if place.kind ≠ .bookmark then throw (.invalidNode nodeId)
    match url with
    | some url => checkUrl url
    | none => pure ()
    return p
  | .saveSession parentId _ tabs index => do
    p.checkParent parentId
    p.checkIndex parentId index none
    checkUrls tabs
    let (added, folder) := p.add parentId .folder index
    return added.addTabs folder tabs

def applyAll (p : Projection) (index : Nat) : List Operation → Except Rejection Projection
  | [] => .ok p
  | operation :: rest =>
    match p.apply operation with
    | .error violation => .error ⟨index, operation.name, violation⟩
    | .ok next => next.applyAll (index + 1) rest

end Projection

def Tree.project {ω : Type} (tree : Tree ω) (batch : List Operation) : Except Rejection Projection :=
  (Projection.ofTree tree).applyAll 0 batch

end Bookmarks
