import Bookmarks.Text.Blank
import Bookmarks.Version.Control
import Bookmarks.Version.Handling
import Bookmarks.Version.History
import Bookmarks.Version.Message

/-!
A repository of files of type `κ`, and the remotes that repositories exchange their commits through. A
remote's branch only ever moves to a commit that has the former one among those it was made from, and
a repository takes over a remote's commits only if it has none of its own.
-/
set_option autoImplicit false

namespace Bookmarks

structure Depot (κ : Type) where
  history : History κ
  remotes : Keyed (Keyed Nat)

structure Repository (κ : Type) where
  directory : String
  -- The remote, if there is one.
  origin : Option String
  -- The branch that is pushed to.
  branch : String
  -- The branch that is worked on; none before the first use.
  current : Option String
  branches : Keyed Nat
  -- What the next commit will hold.
  index : Keyed κ
  -- The heads at the remote, as far as they are known.
  tracking : Keyed Nat

structure Workplace (κ : Type) where
  repository : Repository κ
  depot : Depot κ

def author : String := "bookmarkd <bookmarkd@localhost>"

namespace Depot

variable {κ : Type}

def empty : Depot κ := ⟨.empty, ∅⟩

-- Adds a remote without branches if there is none of that name.
def withRemote (depot : Depot κ) (name : String) : Depot κ :=
  if depot.remotes.contains name then depot
  else { depot with remotes := depot.remotes.insert name ∅ }

def head? (depot : Depot κ) (remote branch : String) : Option Nat :=
  (depot.remotes.get? remote).bind fun branches => branches.get? branch

end Depot

namespace Repository

variable {κ : Type}

def new (directory : String) : Repository κ :=
  { directory, origin := none, branch := "", current := none, branches := ∅, index := ∅
    tracking := ∅ }

def prepare (repository : Repository κ) : Repository κ :=
  { repository with current := some (repository.current.getD repository.branch) }

def head (repository : Repository κ) : Option Nat :=
  repository.current.bind fun branch => repository.branches.get? branch

def setHead (repository : Repository κ) (number : Nat) : Repository κ :=
  match repository.current with
  | none => repository
  | some branch => { repository with branches := repository.branches.insert branch number }

-- Takes what there is at some paths into the next commit, also if a file is gone. That can fail after a part of it.
def stage {δ : Type} (handling : Handling κ δ) (repository : Repository κ) (directory : δ) (paths : List String) :
    Bool × Repository κ :=
  let (complete, listed) := handling.add directory repository.index paths
  let index := listed.foldl (fun index path => Handling.setFile index path (handling.content directory path)) repository.index
  (complete, { repository with index })

def failure (words : List String) (printed : String) : VersionError :=
  .command (" ".intercalate words) (Text.trim printed)

def sameFiles [BEq κ] (a b : Keyed κ) : Bool := a.entries == b.entries

end Repository

namespace Workplace

variable {κ : Type}

def prepare (place : Workplace κ) : Workplace κ :=
  { place with repository := place.repository.prepare }

def head (place : Workplace κ) : Option Nat := place.repository.head

def headFiles (place : Workplace κ) : Keyed κ :=
  (place.head.map place.depot.history.filesOf).getD ∅

def commitStaged [BEq κ] (place : Workplace κ) (message : String) :
    Except VersionError CommitStatus × Workplace κ :=
  if Repository.sameFiles place.repository.index place.headFiles then
    (.ok ⟨false, false, place.head.map hashOf⟩, place)
  else if Message.isEmpty message then
    (.error (Repository.failure ["-c", "commit.gpgsign=false", "commit", "-q", "-m", message] ""),
      place)
  else
    let (number, history) := place.depot.history.add place.head.toList place.repository.index message
    (.ok ⟨true, false, some (hashOf number)⟩,
      ⟨place.repository.setHead number, { place.depot with history }⟩)

def commitWith [BEq κ] {δ : Type} (handling : Handling κ δ) (place : Workplace κ) (directory : δ) (paths : List String)
    (message : String) : Except VersionError CommitStatus × Workplace κ :=
  let prepared := place.prepare
  let (complete, repository) := prepared.repository.stage handling directory paths
  if complete then commitStaged { prepared with repository } message
  else
    let words := paths.map fun path => place.repository.directory ++ "/" ++ path
    (.error (Repository.failure (["add", "--"] ++ words) ""), { prepared with repository })

-- The remote's branch takes over the last commit, if that was made from its own head.
def pushTo (place : Workplace κ) (remote : String) : Except VersionError Unit × Workplace κ :=
  let branch := place.repository.branch
  match place.head, place.depot.remotes.get? remote with
  | some number, some branches =>
    let isForward := ((branches.get? branch).map fun there =>
      (place.depot.history.reach (some number)).contains there).getD true
    if isForward then
      let remotes := place.depot.remotes.insert remote (branches.insert branch number)
      let tracking := place.repository.tracking.insert branch number
      (.ok (), ⟨{ place.repository with tracking }, { place.depot with remotes }⟩)
    else (.error .nonFastForward, place)
  | _, _ =>
    (.error (Repository.failure ["push", "-q", "origin", "HEAD:refs/heads/" ++ branch] ""), place)

def push (place : Workplace κ) : Except VersionError Unit × Workplace κ :=
  match place.repository.origin with
  | none => (.error .remoteNotConfigured, place)
  | some remote => place.prepare.pushTo remote

def fetch (place : Workplace κ) (remote branch : String) : Except VersionError Nat × Workplace κ :=
  match place.depot.head? remote branch with
  | none => (.error (Repository.failure ["fetch", "-q", "origin", branch] ""), place)
  | some number =>
    let tracking := place.repository.tracking.insert branch number
    (.ok number, { place with repository := { place.repository with tracking } })

def remoteRef (branch : String) : String := "origin/" ++ branch

section

variable {δ : Type} (handling : Handling κ δ)

-- Starts the branch at a commit of the remote.
def checkOut (place : Workplace κ) (directory : δ) (branch : String) (number : Nat) : Except VersionError δ × Workplace κ :=
  match handling.checkOut (place.depot.history.filesOf number) place.repository.index directory with
  | .error printed =>
    (.error (Repository.failure ["checkout", "-q", "-f", "-B", branch, remoteRef branch] printed), place)
  | .ok (index, directory) =>
    let repository := { place.repository with
      current := some branch
      branches := place.repository.branches.insert branch number
      index }
    (.ok directory, { place with repository })

-- Why a merge failed is told from what was printed, wherever it says so.
def mergeFailure (branch printed : String) : VersionError :=
  if isPart "Not possible to fast-forward".toList printed.toList then .nonFastForward
  else if isPart "would be overwritten".toList printed.toList then .uncommittedChanges
  else Repository.failure ["merge", "-q", "--ff-only", remoteRef branch] printed

-- Moves on to a later commit, unless something would be lost.
def forwardTo (place : Workplace κ) (directory : δ) (branch : String) (number : Nat) :
    Except VersionError δ × Workplace κ :=
  match handling.forward place.headFiles (place.depot.history.filesOf number) place.repository.index directory with
  | .error printed => (.error (mergeFailure branch printed), place)
  | .ok (index, directory) =>
    (.ok directory, { place with repository := { place.repository with index }.setHead number })

-- Merges a commit without making one: nothing is to be done for one that the last commit was made from, one that was
-- made from the last commit is moved on to, and any other is refused.
def mergeForward (place : Workplace κ) (directory : δ) (branch : String) (last number : Nat) :
    Except VersionError δ × Workplace κ :=
  if (place.depot.history.reach (some last)).contains number then (.ok directory, place)
  else if (place.depot.history.reach (some number)).contains last then place.forwardTo handling directory branch number
  else (.error (mergeFailure branch "fatal: Not possible to fast-forward, aborting."), place)

-- Takes over a commit of the remote, if there is no commit that the remote does not have.
def takeOver (place : Workplace κ) (directory : δ) (branch : String) (number : Nat) :
    Except VersionError δ × Workplace κ :=
  let ahead := place.depot.history.ahead place.head (some number)
  if 0 < ahead then (.error (.localCommitsPresent ahead), place)
  else
    match place.head with
    | none => place.checkOut handling directory branch number
    | some last => place.mergeForward handling directory branch last number

def pullWith (place : Workplace κ) (directory : δ) (branch : String) : Except VersionError δ × Workplace κ :=
  match place.repository.origin with
  | none => (.error .remoteNotConfigured, place)
  | some remote =>
    match place.prepare.fetch remote branch with
    | (.error e, place) => (.error e, place)
    | (.ok number, place) => place.takeOver handling directory branch number

end

def commit [BEq κ] (place : Workplace κ) (files : Keyed κ) (paths : List String)
    (message : String) : Except VersionError CommitStatus × Workplace κ :=
  place.commitWith .plain files paths message

def pull [BEq κ] (place : Workplace κ) (files : Keyed κ) (branch : String) :
    Except VersionError (Keyed κ) × Workplace κ :=
  place.pullWith .plain files branch

-- Where the last commit stands against the remote's branch, as far as that is known.
def status (place : Workplace κ) (branch : String) : BranchStatus :=
  let there := if place.repository.origin.isSome then place.repository.tracking.get? branch else none
  { localHash := place.head.map hashOf
    remoteHash := there.map hashOf
    ahead := place.depot.history.ahead place.head there
    behind := place.depot.history.ahead there place.head }

def log (place : Workplace κ) : List String :=
  (place.depot.history.reach place.head).filterMap fun number =>
    (place.depot.history.get? number).map fun commit => author ++ " " ++ Message.subject commit.message

def control [BEq κ] : VersionControl κ (Workplace κ) where
  commit place files paths message := place.commit files paths message
  push place := place.push
  pull place files branch := place.pull files branch
  status place branch := (.ok (place.prepare.status branch), place.prepare)

end Workplace

end Bookmarks
