import Bookmarks.Store.Files
import Bookmarks.Store.Operations
import Bookmarks.Text.Blank

/-!
The store of a profile: an open database, and the files around it. The version of the tree is kept in
a file next to the database, so that recording it leaves the database alone.
-/
set_option autoImplicit false

namespace Bookmarks

variable {ω : Type} [WrittenOrd ω]

structure Store (ω : Type) where
  path : String
  database : Database ω
  -- The file at the path is still the one that was opened.
  isCurrent : Bool
  -- All other files; the one at the path, too, if another one was opened.
  files : Files ω
  ids : IdSource

namespace Store

def rows (store : Store ω) : Rows ω := store.database.rows

def allFiles (store : Store ω) : Files ω :=
  if store.isCurrent then store.files.insert store.path (.database store.database) else store.files

def file? (store : Store ω) (path : String) : Option (Content ω) := store.allFiles.get? path

-- Puts a file in the place of any other. A database that was open stays open, but no longer has a
-- place.
def putFile (store : Store ω) (path : String) (content : Content ω) : Store ω :=
  if path = store.path then
    { store with files := store.files.insert path content, isCurrent := false }
  else { store with files := store.files.insert path content }

-- Puts other files in the place of all; what was open stays open.
def withFiles (store : Store ω) (files : Files ω) : Store ω :=
  { store with files, isCurrent := false }

def isDirectory (store : Store ω) (path : String) : Bool :=
  (store.file? path).any Content.isDirectory

-- Writes a file next to its place and moves it there; a directory in one of the two places is in
-- the way.
def replaceFile (store : Store ω) (path : String) (content : Content ω) :
    Except StoreError Unit × Store ω :=
  if store.isDirectory (temporary path) then (.error .isDirectory, store)
  else if store.isDirectory path then
    (.error .isDirectory, store.putFile (temporary path) content)
  else
    let written := store.putFile (temporary path) content
    (.ok (), { written with files := written.files.erase (temporary path) } |>.putFile path content)

def initialized (database : Database ω) (now : Int) : Database ω :=
  if database.rows.contains rootId then database
  else ⟨database.rows.withRoot now, database.writes + 1⟩

def openAt (files : Files ω) (path : String) (ids : IdSource) (now : Int) :
    Except StoreError (Store ω) := do
  let database ← match files.get? path with
    | none => .ok ⟨∅, 0⟩
    | some content => content.asDatabase
  return { path, database := initialized database now, isCurrent := true, files, ids }

def ensureRoot (store : Store ω) (now : Int) : Except StoreError (Store ω) :=
  if store.isCurrent then .ok { store with database := initialized store.database now }
  else if store.rows.contains rootId then .ok store
  else .error (.database .replaced)

def reopen (store : Store ω) (now : Int) : Except StoreError Unit × Store ω :=
  match openAt store.allFiles store.path store.ids now with
  | .ok opened => (.ok (), opened)
  | .error e => (.error e, store)

def version (store : Store ω) : Except StoreError String :=
  match store.file? (sidecar store.path) with
  | none => .ok uninitialized
  | some content => do
    let text := Text.trim (← content.readText)
    return if text.isEmpty then uninitialized else text

def load (store : Store ω) : Except StoreError (Tree ω) := do
  store.rows.tree (← store.version)

def recordVersion (store : Store ω) (version : String) : Except StoreError Unit × Store ω :=
  store.replaceFile (sidecar store.path) (.text (version ++ "\n"))

-- Applies a batch to the rows, all of it or nothing.
def commit (store : Store ω) (now : Int) (batch : List Operation) :
    Except StoreError Unit × Store ω :=
  if store.isCurrent then
    match (Transaction.mk store.rows store.ids).applyAll now batch with
    | .error e => (.error e, store)
    | .ok t =>
      let writes := store.database.writes + if batch.any Operation.writes then 1 else 0
      (.ok (), { store with database := ⟨t.rows, writes⟩, ids := t.ids })
  else
    match store.rows.refusal? now batch with
    | some e => (.error e, store)
    | none => (.ok (), store)

def apply (store : Store ω) (now : Int) (batch : List Operation) :
    Except StoreError (Tree ω) × Store ω :=
  match store.commit now batch with
  | (.error e, store) => (.error e, store)
  | (.ok (), store) => (store.load, store)

def writeSnapshot (store : Store ω) (now : Int) (tree : Tree ω) :
    Except StoreError Unit × Store ω :=
  store.replaceFile snapshotFile (.snapshot tree now)

end Store

end Bookmarks
