import Bookmarks.Identity
import Bookmarks.Operation.Basic
import Bookmarks.Store.Rows

/-!
What operations do to the stored rows. An operation that names a row that is not there fails, and with
it the whole batch; the check of a batch happens elsewhere.
-/
set_option autoImplicit false

namespace Bookmarks

variable {ω : Type} [SiblingOrd ω]

structure Transaction (ω : Type) where
  rows : Rows ω
  ids : IdSource

namespace Rows

-- An ord for a row that is to stand at an index below a parent. Where its neighbours are too close,
-- all its siblings are numbered anew.
def allocate (rows : Rows ω) (parent : String) (index : Option Int) (moving : Option String) :
    Except StoreError (ω × Rows ω) :=
  let siblings := rows.siblings parent moving
  match Order.allocate? (siblings.map (·.2)) index with
  | some ord => .ok (ord, rows)
  | none =>
    let fresh := Order.renumbered siblings.length
    match Order.allocate? fresh index with
    | some ord => .ok (ord, rows.renumber ((siblings.map (·.1)).zip fresh))
    | none => .error (.corrupt ("cannot allocate ord under " ++ parent ++ " after renumbering"))

-- Changes a row, for an operation that needs it to be there.
def update (rows : Rows ω) (isThere : Bool) (operation : Operation) (id : String)
    (change : Row ω → Row ω) : Except StoreError (Rows ω) :=
  if isThere then .ok (rows.modify id change) else .error (.noRows operation.name id)

end Rows

namespace Transaction

def insertNew (t : Transaction ω) (now : Int) (parent : String) (kind : Kind) (title : String)
    (url : Option String) (ord : ω) : Except StoreError (String × Transaction ω) := do
  let (id, ids) := t.ids.next now
  let rows ← t.rows.put id ⟨kind.name, title, url, some parent, ord, now, now⟩
  return (id, ⟨rows, ids⟩)

def add (t : Transaction ω) (now : Int) (parent : String) (kind : Kind) (title : String)
    (url : Option String) (index : Option Int) : Except StoreError (String × Transaction ω) := do
  let (ord, rows) ← t.rows.allocate parent index none
  insertNew { t with rows } now parent kind title url ord

def addTabs (t : Transaction ω) (now : Int) (folder : String) (number : Nat) :
    List Tab → Except StoreError (Transaction ω)
  | [] => .ok t
  | tab :: rest => do
    let (_, next) ← t.insertNew now folder .bookmark tab.title (some tab.url)
      (SiblingOrd.ofNat number)
    next.addTabs now folder (number + 1) rest

def move (rows : Rows ω) (now : Int) (operation : Operation) (nodeId newParentId : String)
    (newIndex : Option Int) : Except StoreError (Rows ω) := do
  let (ord, rows) ← rows.allocate newParentId newIndex (some nodeId)
  match rows.get? nodeId with
  | some row =>
    if row.parentId.isSome then
      rows.put nodeId { row with parentId := some newParentId, ord, updatedAt := now }
    else .error (.noRows operation.name nodeId)
  | none => .error (.noRows operation.name nodeId)

def apply (t : Transaction ω) (now : Int) (operation : Operation) :
    Except StoreError (Transaction ω) :=
  match operation with
  | .addFolder parentId title index => do
    return (← t.add now parentId .folder title none index).2
  | .addBookmark parentId title url index => do
    return (← t.add now parentId .bookmark title (some url) index).2
  | .renameNode nodeId title => do
    let rows ← t.rows.update (t.rows.isChild nodeId) operation nodeId fun row =>
      { row with title, updatedAt := now }
    return { t with rows }
  | .moveNode nodeId newParentId newIndex => do
    return { t with rows := ← move t.rows now operation nodeId newParentId newIndex }
  | .deleteNode nodeId _ =>
    if t.rows.isChild nodeId then .ok { t with rows := t.rows.removeAll [nodeId] }
    else .error (.noRows operation.name nodeId)
  | .updateBookmark nodeId none none =>
    if t.rows.isBookmark nodeId then .ok t else .error (.noRows operation.name nodeId)
  | .updateBookmark nodeId title url => do
    let rows ← t.rows.update (t.rows.isBookmark nodeId) operation nodeId fun row =>
      { row with title := title.getD row.title, url := url.or row.url, updatedAt := now }
    return { t with rows }
  | .saveSession parentId title tabs index => do
    let (folder, next) ← t.add now parentId .folder title none index
    next.addTabs now folder 0 tabs

def applyAll (t : Transaction ω) (now : Int) : List Operation → Except StoreError (Transaction ω)
  | [] => .ok t
  | operation :: rest => do
    let next ← t.apply now operation
    next.applyAll now rest

end Transaction

def Operation.writes : Operation → Bool
  | .updateBookmark _ none none => false
  | _ => true

-- Whether placing a row changes other rows first.
def Operation.renumbers (rows : Rows ω) : Operation → Bool
  | .addFolder parentId _ index => isTight rows parentId index none
  | .addBookmark parentId _ _ index => isTight rows parentId index none
  | .moveNode nodeId newParentId newIndex => isTight rows newParentId newIndex (some nodeId)
  | .saveSession parentId _ _ index => isTight rows parentId index none
  | _ => false
where
  isTight (rows : Rows ω) (parent : String) (index : Option Int) (moving : Option String) : Bool :=
    (Order.allocate? ((rows.siblings parent moving).map (·.2)) index).isNone

-- What becomes of a batch when nothing can be written: it fails with the first thing that is wrong
-- before anything is written, or because of the first thing that has to be.
def Rows.refusal? (rows : Rows ω) (now : Int) : List Operation → Option StoreError
  | [] => none
  | operation :: rest =>
    if operation.renumbers rows then some (.database .replaced)
    else
      match (Transaction.mk rows {}).apply now operation with
      | .error (.noRows name nodeId) => some (.noRows name nodeId)
      | .error (.database .missingOrd) => some (.database .missingOrd)
      | .error _ => some (.database .replaced)
      | .ok _ => if operation.writes then some (.database .replaced) else rows.refusal? now rest

end Bookmarks
