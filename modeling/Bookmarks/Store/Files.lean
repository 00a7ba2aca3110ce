import Bookmarks.Store.Rows
import Bookmarks.Text.Path
import Bookmarks.Tree.Snapshot

/-!
The files of a profile, by their paths.
-/
set_option autoImplicit false

namespace Bookmarks

structure Database (ω : Type) where
  rows : Rows ω
  writes : Nat

inductive Content (ω : Type) where
  | directory
  | text (text : String)
  | database (database : Database ω)
  | snapshot (tree : Tree ω) (generatedAt : Int)

abbrev Files (ω : Type) := Keyed (Content ω)

def sidecar (path : String) : String := Path.withExtension path "version"

-- The file that takes the place of another one when it is complete.
def temporary (path : String) : String := path ++ ".tmp"

def snapshotFile : String := "snapshot.json"

namespace Content

variable {ω : Type} [WrittenOrd ω]

def readText : Content ω → Except StoreError String
  | .directory => .error .isDirectory
  | .text t => .ok t
  | .database _ => .error .isNoText
  | .snapshot tree generatedAt => .ok (tree.snapshotText generatedAt)

def isDirectory : Content ω → Bool
  | .directory => true
  | _ => false

def sameRow (a b : String × Row ω) : Bool :=
  a.1 == b.1 && a.2.kind == b.2.kind && a.2.title == b.2.title && a.2.url == b.2.url &&
  a.2.parentId == b.2.parentId && (SiblingOrd.order a.2.ord b.2.ord).isEq &&
  a.2.createdAt == b.2.createdAt && a.2.updatedAt == b.2.updatedAt

def sameDatabase (a b : Database ω) : Bool :=
  a.writes == b.writes && a.rows.entries.length == b.rows.entries.length &&
  (a.rows.entries.zip b.rows.entries).all fun (x, y) => sameRow x y

-- Equal byte for byte.
def same : Content ω → Content ω → Bool
  | .directory, .directory => true
  | .database a, .database b => sameDatabase a b
  | .directory, _ => false
  | .database _, _ => false
  | a, b =>
    match a.readText, b.readText with
    | .ok s, .ok t => s == t
    | _, _ => false

instance : BEq (Content ω) := ⟨same⟩

-- What a file begins with that holds a database.
def databaseMark : String := "SQLite format 3\x00"

-- The database that a file is opened as. An empty file is an empty database, and a file of one byte counts as empty.
-- Any other text is no database; texts that begin with the mark are left out of this account.
def asDatabase : Content ω → Except StoreError (Database ω)
  | .directory => .error (.database .cannotOpen)
  | .text t => if t.utf8ByteSize ≤ 1 then .ok ⟨∅, 0⟩ else .error (.database .notADatabase)
  | .database d => .ok d
  | .snapshot _ _ => .error (.database .notADatabase)

end Content

end Bookmarks
