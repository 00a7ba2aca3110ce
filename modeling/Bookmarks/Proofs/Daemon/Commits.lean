import Bookmarks.Proofs.Daemon.Simulation
import Bookmarks.Proofs.Daemon.Views
import Bookmarks.Proofs.Version.Mishaps

/-!
What is in the commits that a daemon makes. A commit holds the export of the tree that was stored, and the file at the
path of the database. That is the database the tree was loaded from as long as it is the open one.
-/
set_option autoImplicit false

namespace Bookmarks

open Store (Keeps Apart)
open Workplace (Rests Commits Still Valid)

variable {ω : Type} [WrittenOrd ω]

-- The version of a tree whose last commit this is.
def versionAt (tip : Option Nat) : String := (tip.map hashOf).getD uninitialized

-- A commit has an export of the bookmarks in its database.
def Consistent (path : String) (commit : Commit (Content ω)) : Prop :=
  ∃ database tree generatedAt, commit.files.get? path = some (.database database) ∧
    commit.files.get? snapshotFile = some (.snapshot tree generatedAt) ∧ database.rows.Shows tree

omit [WrittenOrd ω] in
-- A commit has an export that names the commit it was made from.
def Dated (commit : Commit (Content ω)) : Prop :=
  ∃ (tree : Tree ω) (generatedAt : Int) (parent : Option Nat), commit.parents = parent.toList ∧
    commit.files.get? snapshotFile = some (.snapshot tree generatedAt) ∧ tree.version = versionAt parent

namespace Daemon

section

variable {σ : Type}

omit [WrittenOrd ω] in
theorem record_commit_known (daemon : Daemon ω σ) {tree : Tree ω} {status : CommitStatus}
    (known : ∀ hash, status.hash = some hash → hash = tree.version) : (daemon.recordCommit tree status).2 = daemon := by
  unfold recordCommit
  cases returned : status.hash with
  | none => rfl
  | some hash => simp only [if_pos (known hash returned)]

omit [WrittenOrd ω] in
theorem record_commit_versions (daemon : Daemon ω σ) (tree : Tree ω) (status : CommitStatus) :
    (daemon.recordCommit tree status).2.versions = daemon.versions := by
  unfold recordCommit
  split
  · rfl
  · split
    · rfl
    · split <;> rfl

omit [WrittenOrd ω] in
-- A tree is exported and committed, or not exported.
theorem export_ways (daemon : Daemon ω σ) (now : Int) (tree : Tree ω) (message : String) :
    (daemon.exportTree now tree message = (.deferred, { daemon with store := (daemon.store.writeSnapshot now tree).2 })) ∨
    ((daemon.store.writeSnapshot now tree).1 = .ok () ∧ ∃ answer versions,
      daemon.control.commit daemon.versions (daemon.store.writeSnapshot now tree).2.allFiles
        [(daemon.store.writeSnapshot now tree).2.path, snapshotFile] message = (answer, versions) ∧
      daemon.exportTree now tree message = (answer.toOption.getD .deferred,
        { daemon with versions, store := (daemon.store.writeSnapshot now tree).2 })) := by
  unfold exportTree
  cases written : daemon.store.writeSnapshot now tree with
  | mk outcome store =>
      cases outcome with
      | error failure => exact Or.inl rfl
      | ok _ => exact Or.inr ⟨rfl, _, _, rfl, rfl⟩

theorem settle_versions (daemon : Daemon ω σ) (now : Int) (before after : Tree ω) (message : String) :
    (daemon.settle now before after message).2.versions = (daemon.exportTree now after message).2.versions :=
  record_commit_versions _ after _

end

-- The daemon with what goes wrong at its next calls to the version control, and what it is after them.
def under (daemon : Daemon ω (Workplace (Content ω))) (mishaps : List (Option Mishap)) :
    Daemon ω (Workplace (Content ω) × List (Option Mishap)) :=
  ⟨daemon.store, daemon.hub, daemon.branch, Workplace.faulty, daemon.versions, mishaps⟩

def afterwards (daemon : Daemon ω (Workplace (Content ω) × List (Option Mishap))) : Daemon ω (Workplace (Content ω)) :=
  ⟨daemon.store, daemon.hub, daemon.branch, Workplace.control, daemon.versions.1⟩

-- Where nothing goes wrong the daemon does what it does with its version control as it is.
theorem faultless {daemon : Daemon ω (Workplace (Content ω))} (ours : daemon.control = Workplace.control) (now : Int) :
    (∀ batch, (daemon.under []).apply now batch = (daemon.apply now batch).map id fun next => next.under []) ∧
      (daemon.under []).push = daemon.push.map id (fun next => next.under []) ∧
      (daemon.under []).pull now = (daemon.pull now).map id fun next => next.under [] := by
  have resembles : daemon.control.Resembles Workplace.faulty fun place => (place, []) := by
    rw [ours]
    exact ⟨fun _ _ _ _ => rfl, fun _ => rfl, fun _ _ _ => rfl, fun _ _ => rfl⟩
  exact ⟨apply_viewed resembles now, push_viewed resembles, pull_viewed resembles now⟩

-- A tree that was stored is settled without a commit, or by one that holds it.
theorem settle_made (daemon : Daemon ω (Workplace (Content ω) × List (Option Mishap))) {after : Tree ω}
    (faulty : daemon.control = Workplace.faulty) (apart : Apart daemon.store.path)
    (loaded : daemon.store.load = .ok after) (now : Int) (before : Tree ω) (message : String)
    {last : Daemon ω (Workplace (Content ω) × List (Option Mishap))}
    (done : (daemon.settle now before after message).2 = last) :
    (Rests daemon.versions.1 last.versions.1 ∧
      (after.version = versionAt daemon.versions.1.tip → last.store.version = .ok after.version)) ∨
    ∃ files, Commits daemon.versions.1 last.versions.1 files [daemon.store.path, snapshotFile] ∧
      files.get? snapshotFile = some (.snapshot after now) ∧ (daemon.store.isCurrent = true →
        files.get? daemon.store.path = some (.database daemon.store.database)) := by
  have versions := settle_versions daemon now before after message
  have keeps := Store.write_snapshot_keeps daemon.store now after
  have exported : (daemon.store.writeSnapshot now after).2.version = .ok after.version := by
    rw [Store.version_of_write_snapshot]
    exact Store.version_of_load loaded
  -- the version is not touched where it is that of the last commit
  have untouched (known : ∀ hash, (daemon.exportTree now after message).1.hash = some hash → hash = after.version) :
      (daemon.settle now before after message).2.store = (daemon.store.writeSnapshot now after).2 := by
    have same := congrArg Daemon.store (record_commit_known (daemon.exportTree now after message).2 known)
    exact same.trans (export_store daemon now after message)
  rw [done] at versions untouched
  rcases export_ways daemon now after message with deferred | ⟨wrote, answer, place, answered, committed⟩
  · rw [deferred] at versions untouched
    refine Or.inl ⟨?_, fun _ => ?_⟩
    · rw [versions]
      exact .refl _
    · rw [untouched fun hash impossible => by cases impossible]
      exact exported
  · rw [committed] at versions untouched
    rw [faulty] at answered
    rcases Workplace.commit_under_ways (Workplace.faulty_commit answered) with ⟨rests, statuses⟩ | ⟨commits, _⟩
    · refine Or.inl ⟨versions ▸ rests, fun known => ?_⟩
      rw [untouched ?_]
      · exact exported
      · intro hash returned
        cases answer with
        | error failure => cases returned
        | ok status =>
            have hashed : daemon.versions.1.tip.map hashOf = some hash := by
              rw [statuses status rfl] at returned
              exact returned
            rw [known, versionAt, hashed, Option.getD_some]
    · refine Or.inr ⟨(daemon.store.writeSnapshot now after).2.allFiles, ?_, ?_, ?_⟩
      · rw [versions, ← keeps.path]
        exact commits
      · have there := Store.file_of_replaced wrote snapshotFile
        rw [if_pos rfl] at there
        exact there
      · intro current
        have there := Store.file_at_path ((Store.write_snapshot_current apart now after).trans current)
        rw [keeps.path, keeps.database] at there
        exact there

-- What was taken over is open afterwards and has the version of the last commit, if nothing failed.
theorem adopt_made {daemon last : Daemon ω (Workplace (Content ω) × List (Option Mishap))}
    (faulty : daemon.control = Workplace.faulty) (apart : Apart daemon.store.path) {number : Nat}
    (head : daemon.versions.1.head = some number) {now : Int} {before : Tree ω} {answer : Except Failure (Tree ω)}
    (done : daemon.adopt now before = (answer, last)) :
    last.store.path = daemon.store.path ∧ Rests daemon.versions.1 last.versions.1 ∧
    ((last.store = daemon.store ∧ ∃ failure, answer = .error (.store failure) ∧
        daemon.store.reopen now = (.error failure, daemon.store)) ∨
      last.store.isCurrent = true ∧ (last.store.version = .ok (hashOf number) ∨
        answer.isOk = false ∧ last.store.version = daemon.store.version)) := by
  have rests : Rests daemon.versions.1 daemon.status.2.versions.1 := by
    rw [status, faulty]
    exact (Workplace.still_status _ _ _).rests
  rcases adopt_ways daemon now before with ⟨failure, closed, failed⟩ |
    ⟨opened, outcome, ended, reopened, adopted, after, ways⟩
  · rw [failed] at done
    cases done
    exact ⟨rfl, .refl _, Or.inl ⟨rfl, failure, rfl, closed⟩⟩
  · rw [adopted] at done
    cases done
    obtain ⟨path, current, _⟩ := Store.reopen_rooted reopened
    have version : opened.version = daemon.store.version :=
      Store.version_of_same_file path (Store.file_of_reopen reopened apart.version)
    rw [← after] at rests
    rcases ways with ⟨failure, _, rfl, store⟩ | ⟨status, answered, store, ways⟩
    · rw [store]
      exact ⟨path, rests, Or.inr ⟨current, Or.inr ⟨rfl, version⟩⟩⟩
    · have hash : status.localHash = some (hashOf number) := by
        rw [Daemon.status, faulty] at answered
        rw [Workplace.faulty_status (map_error_ok.mp answered), Workplace.prepare_of_head head, Workplace.status, head]
        rfl
      have keeps := Store.headed_keeps opened status.localHash
      have stillCurrent := Store.headed_current (path ▸ apart) status.localHash
      rw [store]
      refine ⟨keeps.path.trans path, rests, Or.inr ⟨stillCurrent.trans current, ?_⟩⟩
      rw [hash]
      rcases Store.headed_version opened (hash_tidy number) with recorded | ⟨unrecorded, same⟩
      · exact Or.inl recorded
      · refine Or.inr ⟨?_, same.trans version⟩
        rcases ways with ⟨failure, rfl⟩ | ⟨tree, rfl, recorded, _⟩
        · rfl
        · rw [hash] at recorded
          exact absurd recorded unrecorded

variable {daemon : Daemon ω (Workplace (Content ω))}

-- After a batch the last commit is the one from before, or one of the tree that was stored.
theorem apply_made (apart : Apart daemon.store.path) (mishaps : List (Option Mishap)) (now : Int)
    (batch : List Operation) {next : Daemon ω (Workplace (Content ω))}
    (done : ((daemon.under mishaps).apply now batch).2.afterwards = next) :
    next.store.path = daemon.store.path ∧ next.store.isCurrent = daemon.store.isCurrent ∧
    ((Rests daemon.versions next.versions ∧ (daemon.store.version = .ok (versionAt daemon.versions.tip) →
        next.store.version = .ok (versionAt daemon.versions.tip))) ∨
      ∃ files tree, Commits daemon.versions next.versions files [daemon.store.path, snapshotFile] ∧
        files.get? snapshotFile = some (.snapshot tree now) ∧ daemon.store.version = .ok tree.version ∧
        (daemon.store.isCurrent = true → ∃ database, files.get? daemon.store.path = some (.database database) ∧
          database.rows.Shows tree)) := by
  rcases apply_cases (daemon.under mishaps) now batch with ⟨_, _, same⟩ | ⟨_, _, _, _, same⟩ |
    ⟨before, after, store, checked, committed, reloaded, same⟩
  · rw [same] at done
    subst done
    exact ⟨rfl, rfl, Or.inl ⟨.refl _, id⟩⟩
  · rw [same] at done
    subst done
    exact ⟨rfl, rfl, Or.inl ⟨.refl _, id⟩⟩
  rw [same] at done
  subst done
  obtain ⟨loaded, _⟩ := check_ok checked
  have place := Store.commit_place daemon.store now batch
  rw [show daemon.store.commit now batch = (.ok (), store) from committed] at place
  obtain ⟨path, stillCurrent⟩ := place
  have storeApart : Apart store.path := path ▸ apart
  have keeps := settle_keeps { daemon.under mishaps with store } now before after (commitMessage batch)
  have settled := settle_current { daemon.under mishaps with store } storeApart now before after (commitMessage batch)
  have earlier : daemon.store.version = .ok after.version := by
    rw [Store.version_of_commit loaded committed reloaded]
    exact Store.version_of_load loaded
  refine ⟨keeps.path.trans path, settled.trans stillCurrent, ?_⟩
  rcases settle_made { daemon.under mishaps with store } rfl storeApart reloaded now before (commitMessage batch) rfl with
    ⟨rests, versions⟩ | ⟨files, commits, snapshot, there⟩
  · refine Or.inl ⟨rests, fun known => ?_⟩
    have same : after.version = versionAt daemon.versions.tip := Except.ok.inj (earlier.symm.trans known)
    rw [← same]
    exact versions same
  · refine Or.inr ⟨files, after, path ▸ commits, snapshot, earlier, fun current => ?_⟩
    exact ⟨store.database, path ▸ there (stillCurrent.trans current), Store.shows_of_load reloaded⟩

-- A pull fails and changes nothing, or what was taken over is adopted.
theorem pull_taken {mishaps : List (Option Mishap)} {now : Int} {answer : Except Failure (Tree ω)}
    {next : Daemon ω (Workplace (Content ω) × List (Option Mishap))}
    (done : (daemon.under mishaps).pull now = (answer, next)) :
    (∃ failure, answer = .error failure ∧ next.store = daemon.store ∧ next.branch = daemon.branch ∧
      Still daemon.versions next.versions.1) ∨
    ∃ before asked files versions, Still daemon.versions asked ∧
      asked.pull daemon.store.allFiles daemon.branch = (.ok files, versions.1) ∧
      adopt { daemon.under mishaps with store := daemon.store.withFiles files, versions } now before = (answer, next) := by
  have looked : Still daemon.versions (daemon.under mishaps).status.2.versions.1 := Workplace.still_status _ _ _
  rcases pull_ways (daemon.under mishaps) now with ⟨failure, versions, failed, ways⟩ |
    ⟨before, _, files, versions, _, _, _, taken, adopted⟩
  · rw [failed] at done
    cases done
    refine Or.inl ⟨failure, rfl, rfl, rfl, ?_⟩
    rcases ways with rfl | rfl | ⟨error, refused⟩
    · exact .refl _
    · exact looked
    · rcases Workplace.pull_under_ways (Workplace.faulty_pull refused) with ⟨still, _⟩ | ⟨_, impossible, _⟩
      · exact looked.trans still
      · cases impossible
  · rw [adopted] at done
    rcases Workplace.pull_under_ways (Workplace.faulty_pull taken) with ⟨_, _, impossible⟩ | ⟨_, same, moved⟩
    · cases impossible
    · cases same
      exact Or.inr ⟨before, _, files, versions, looked, moved, done⟩

-- After a pull that went well, or left the last commit as it was, the version is still that of the last commit.
theorem pull_made (apart : Apart daemon.store.path)
    (mishaps : List (Option Mishap)) (now : Int) {answer : Except Failure (Tree ω)}
    {next : Daemon ω (Workplace (Content ω) × List (Option Mishap))}
    (done : (daemon.under mishaps).pull now = (answer, next)) :
    next.store.path = daemon.store.path ∧ next.versions.1.depot = daemon.versions.depot ∧
    (Valid daemon.versions → Valid next.versions.1) ∧
    (next.store.isCurrent = true → (answer.isOk = true ∨ next.versions.1.tip = daemon.versions.tip) →
      daemon.store.version = .ok (versionAt daemon.versions.tip) →
      next.store.version = .ok (versionAt next.versions.1.tip)) ∧
    (daemon.store.isCurrent = true → next.store.isCurrent = false → ∃ files failure, answer = .error (.store failure) ∧
      (daemon.store.withFiles files).reopen now = (.error failure, daemon.store.withFiles files)) := by
  rcases pull_taken done with ⟨_, _, store, _, still⟩ | ⟨before, asked, files, versions, looked, moved, adopted⟩
  · refine ⟨congrArg Store.path store, still.rests.depot, still.rests.valid, ?_, ?_⟩
    · intro _ _ known
      rw [still.rests.tip, store]
      exact known
    · intro current detached
      rw [store, current] at detached
      cases detached
  · obtain ⟨_, number, head, _, depot, _⟩ := Workplace.head_of_pull moved
    have tip := Workplace.tip_of_head head
    obtain ⟨path, rests, ways⟩ := adopt_made rfl apart head adopted
    refine ⟨path, rests.depot.trans (depot.trans looked.rests.depot),
      fun valid => rests.valid (Workplace.pull_valid (looked.rests.valid valid) moved), ?_, ?_⟩
    · intro attached went known
      rcases ways with ⟨detached, _⟩ | ⟨_, recorded | ⟨failed, same⟩⟩
      · rw [detached] at attached
        cases attached
      · rw [rests.tip, tip]
        exact recorded
      · -- the last commit is still the same one, so that nothing was taken over
        have stays : next.versions.1.tip = daemon.versions.tip := went.resolve_left (by rw [failed]; simp)
        have unmoved : versions.1.tip = asked.tip := rests.tip.symm.trans (stays.trans looked.rests.tip.symm)
        have unchanged := Workplace.files_of_pull_same moved unmoved
        rw [stays, ← known, same]
        exact Store.version_of_same_file rfl (congrArg (·.get? (sidecar daemon.store.path)) unchanged)
    · intro _ detached
      rcases ways with ⟨_, failure, failed, closed⟩ | ⟨attached, _⟩
      · exact ⟨files, failure, failed, closed⟩
      · rw [attached] at detached
        cases detached

end Daemon

end Bookmarks
