import Bookmarks.Store.Error
import Bookmarks.Tree.Basic

/-!
The table of nodes as it is stored, and what a statement does to it. The table itself sees to it that
a row's parent is there and that an ord is a number; deleting a row deletes every row below it.
-/
set_option autoImplicit false

namespace Bookmarks

-- A node as it is stored: its kind is any text.
structure Row (ω : Type) where
  kind : String
  title : String
  url : Option String
  parentId : Option String
  ord : ω
  createdAt : Int
  updatedAt : Int
deriving Repr

abbrev Rows (ω : Type) := Keyed (Row ω)

namespace Rows

variable {ω : Type} [SiblingOrd ω]

def isBelow (parent : String) (row : Row ω) : Bool := row.parentId == some parent

def idsBelow (rows : Rows ω) (parent : String) : List String :=
  (rows.entries.filter fun entry => isBelow parent entry.2).map (·.1)

-- The order of siblings: by ord, by id where ords are equal.
def precedes (a b : String × ω) : Bool :=
  (SiblingOrd.order a.2 b.2).then (compare a.1 b.1) != .gt

def siblings (rows : Rows ω) (parent : String) (left : Option String) : List (String × ω) :=
  let below := rows.entries.filter fun entry => isBelow parent entry.2 && some entry.1 != left
  (below.map fun entry => (entry.1, entry.2.ord)).mergeSort precedes

def isChild (rows : Rows ω) (id : String) : Bool := (rows.get? id).any (·.parentId.isSome)

def isBookmark (rows : Rows ω) (id : String) : Bool :=
  (rows.get? id).any (·.kind == Kind.bookmark.name)

-- Puts a row into the table if its ord and its parent allow it.
def put (rows : Rows ω) (id : String) (row : Row ω) : Except StoreError (Rows ω) :=
  match SiblingOrd.stored? row.ord with
  | none => .error (.database .missingOrd)
  | some ord =>
    let added := rows.insert id { row with ord }
    if row.parentId.all added.contains then .ok added else .error (.database .missingParent)

def renumber (rows : Rows ω) (numbered : List (String × ω)) : Rows ω :=
  numbered.foldl (fun rows entry => rows.modify entry.1 fun row => { row with ord := entry.2 }) rows

def removeAll (rows : Rows ω) : List String → Rows ω
  | [] => rows
  | id :: rest =>
    match _found : rows.get? id with
    | some _ => removeAll (rows.erase id) (idsBelow (rows.erase id) id ++ rest)
    | none => removeAll rows rest
termination_by ids => (rows.size, ids.length)
decreasing_by
  · exact Prod.Lex.left _ _ (Keyed.size_erase_lt _found)
  · exact Prod.Lex.right _ (by simp)

-- The order in which rows are read: those without a parent first, then by parent, ord and id.
def readsBefore (a b : String × Row ω) : Bool :=
  let parents := match a.2.parentId, b.2.parentId with
    | none, none => Ordering.eq
    | none, some _ => .lt
    | some _, none => .gt
    | some p, some q => compare p q
  (parents.then (SiblingOrd.order a.2.ord b.2.ord)).then (compare a.1 b.1) != .gt

def node (id : String) (row : Row ω) : Except StoreError (Node ω) :=
  match Kind.ofName? row.kind with
  | none => .error (.corrupt ("node " ++ id ++ ": " ++ Kind.complaint row.kind))
  | some kind =>
    .ok { id, kind, title := row.title, url := row.url, parentId := row.parentId, ord := row.ord
          createdAt := row.createdAt, updatedAt := row.updatedAt }

def nodes (rows : Rows ω) : Except StoreError (List (Node ω)) :=
  (rows.entries.mergeSort readsBefore).mapM fun entry => node entry.1 entry.2

def tree (rows : Rows ω) (version : String) : Except StoreError (Tree ω) :=
  rows.nodes.map (Tree.ofNodes version)

def rootRow (now : Int) : Row ω :=
  ⟨Kind.folder.name, "Root", none, none, SiblingOrd.ofNat 0, now, now⟩

def withRoot (rows : Rows ω) (now : Int) : Rows ω :=
  if rows.contains rootId then rows else rows.insert rootId (rootRow now)

end Rows

end Bookmarks
