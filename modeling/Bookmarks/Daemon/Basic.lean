import Bookmarks.Batch.Check
import Bookmarks.Daemon.Failure
import Bookmarks.Hub
import Bookmarks.Store.Basic
import Bookmarks.Tree.Search
import Bookmarks.Version.Control

/-!
The daemon of a profile: its store, the subscribers to its changes and its version control. A batch is
checked against the stored tree, applied, exported, committed and announced; each of these is a step of
its own, and `Daemon.apply` takes them one after another.
-/
set_option autoImplicit false

namespace Bookmarks

open Bookmarks.Json (Value)

variable {ω σ : Type} [WrittenOrd ω]

structure Daemon (ω σ : Type) where
  store : Store ω
  hub : Hub Change
  branch : String
  control : VersionControl (Content ω) σ
  versions : σ

structure Applied (ω : Type) where
  tree : Tree ω
  status : CommitStatus
  changedIds : List String

def Applied.value (applied : Applied ω) : Value :=
  .obj [("tree", applied.tree.value), ("vcsStatus", applied.status.value)]

def commitMessage (batch : List Operation) : String :=
  "apply_ops: " ++ String.intercalate ", " (batch.map Operation.name)

namespace Daemon

def start (store : Store ω) (branch : String) (control : VersionControl (Content ω) σ)
    (versions : σ) : Daemon ω σ :=
  { store, hub := Hub.empty, branch, control, versions }

def tree (daemon : Daemon ω σ) : Except Failure (Tree ω) := daemon.store.load.mapError .store

def check (daemon : Daemon ω σ) (batch : List Operation) : Except Failure (Tree ω) := do
  if batch.isEmpty then throw (.invalidRequest "ops must not be empty")
  let before ← daemon.tree
  let _ ← (before.project batch).mapError .rejected
  return before

def commit (daemon : Daemon ω σ) (message : String) : CommitStatus × Daemon ω σ :=
  let paths := [daemon.store.path, snapshotFile]
  let (answer, versions) := daemon.control.commit daemon.versions daemon.store.allFiles paths message
  (answer.toOption.getD .deferred, { daemon with versions })

-- Exports a tree and commits it. A change that cannot be exported or committed waits for the commit
-- of a later one.
def exportTree (daemon : Daemon ω σ) (now : Int) (tree : Tree ω) (message : String) :
    CommitStatus × Daemon ω σ :=
  match daemon.store.writeSnapshot now tree with
  | (.error _, store) => (.deferred, { daemon with store })
  | (.ok (), store) => commit { daemon with store } message

def recordCommit (daemon : Daemon ω σ) (tree : Tree ω) (status : CommitStatus) :
    Tree ω × Daemon ω σ :=
  match status.hash with
  | none => (tree, daemon)
  | some hash =>
    if hash = tree.version then (tree, daemon)
    else
      match daemon.store.recordVersion hash with
      | (.ok (), store) => ({ tree with version := hash }, { daemon with store })
      | (.error _, store) => (tree, { daemon with store })

def announce (daemon : Daemon ω σ) (now : Int) (tree : Tree ω) (changedIds : List String) :
    Daemon ω σ :=
  { daemon with hub := (daemon.hub.broadcast ⟨tree.version, changedIds, now⟩).2 }

def settle (daemon : Daemon ω σ) (now : Int) (before after : Tree ω) (message : String) :
    Applied ω × Daemon ω σ :=
  let (status, exported) := daemon.exportTree now after message
  let (tree, recorded) := exported.recordCommit after status
  let changedIds := tree.changedSince before
  (⟨tree, status, changedIds⟩, recorded.announce now tree changedIds)

def apply (daemon : Daemon ω σ) (now : Int) (batch : List Operation) :
    Except Failure (Applied ω) × Daemon ω σ :=
  match daemon.check batch with
  | .error failure => (.error failure, daemon)
  | .ok before =>
    match daemon.store.apply now batch with
    | (.error e, store) => (.error (.store e), { daemon with store })
    | (.ok after, store) =>
      let (applied, settled) := settle { daemon with store } now before after (commitMessage batch)
      (.ok applied, settled)

def matchValue (node : Node ω) : Value :=
  .obj [("id", .str node.id), ("title", .str node.title), ("url", Value.orNull .str node.url),
    ("kind", .str node.kind.name)]

def search (daemon : Daemon ω σ) (query : String) (limit : Option Int) :
    Except Failure (List (Node ω)) := do
  return (← daemon.tree).search query (clampLimit limit)

def status (daemon : Daemon ω σ) : Except Failure BranchStatus × Daemon ω σ :=
  let (answer, versions) := daemon.control.status daemon.versions daemon.branch
  (answer.mapError .version, { daemon with versions })

def push (daemon : Daemon ω σ) : Except Failure Unit × Daemon ω σ :=
  let (answer, versions) := daemon.control.push daemon.versions
  (answer.mapError .version, { daemon with versions })

-- Takes over the files of the remote branch; the open database is no longer the one at its path.
def fetch (daemon : Daemon ω σ) : Except Failure Unit × Daemon ω σ :=
  match daemon.control.pull daemon.versions daemon.store.allFiles daemon.branch with
  | (.error e, versions) => (.error (.version e), { daemon with versions })
  | (.ok files, versions) =>
    (.ok (), { daemon with versions, store := daemon.store.withFiles files })

def reopen (daemon : Daemon ω σ) (now : Int) : Except Failure Unit × Daemon ω σ :=
  let (answer, store) := daemon.store.reopen now
  (answer.mapError .store, { daemon with store })

def recordHead (daemon : Daemon ω σ) (status : BranchStatus) : Except Failure Unit × Daemon ω σ :=
  match status.localHash with
  | none => (.ok (), daemon)
  | some hash =>
    let (answer, store) := daemon.store.recordVersion hash
    (answer.mapError .store, { daemon with store })

def reload (daemon : Daemon ω σ) (now : Int) (before : Tree ω) :
    Except Failure (Tree ω) × Daemon ω σ :=
  match daemon.tree with
  | .error failure => (.error failure, daemon)
  | .ok tree =>
    let changedIds := tree.changedSince before
    (.ok tree, if changedIds.isEmpty then daemon else daemon.announce now tree changedIds)

def adopt (daemon : Daemon ω σ) (now : Int) (before : Tree ω) :
    Except Failure (Tree ω) × Daemon ω σ :=
  match daemon.reopen now with
  | (.error failure, daemon) => (.error failure, daemon)
  | (.ok (), daemon) =>
    match daemon.status with
    | (.error failure, daemon) => (.error failure, daemon)
    | (.ok status, daemon) =>
      match daemon.recordHead status with
      | (.error failure, daemon) => (.error failure, daemon)
      | (.ok (), daemon) => daemon.reload now before

-- Fetches the remote branch and takes it over. Bookmarks that are in no commit are not given up.
def pull (daemon : Daemon ω σ) (now : Int) : Except Failure (Tree ω) × Daemon ω σ :=
  match daemon.tree with
  | .error failure => (.error failure, daemon)
  | .ok before =>
    match daemon.status with
    | (.error failure, daemon) => (.error failure, daemon)
    | (.ok status, daemon) =>
      if status.localHash.isNone && decide (1 < before.nodes.size) then
        (.error (.version .uncommittedChanges), daemon)
      else
        match daemon.fetch with
        | (.error failure, daemon) => (.error failure, daemon)
        | (.ok (), daemon) => daemon.adopt now before

end Daemon

end Bookmarks
