import Bookmarks.Proofs.Daemon.Commits
import Bookmarks.Proofs.Daemon.Shelter
import Bookmarks.Proofs.Version.Advance

/-!
What a daemon does in common with others. Once it has committed or taken over anything, the open database is the
one at its path and the one of the last commit (`Anchored`), and that is so again after any batch that is
committed (`apply_lands`) and after any pull of what such daemons have pushed (`pull_lands`).
-/
set_option autoImplicit false

namespace Bookmarks

open Store (Keeps Apart)
open Workplace (Rests Commits Valid Still Advances Holding)

variable {ω : Type} [WrittenOrd ω]

theorem Store.rooted_of_commit {store next : Store ω} {now : Int} {batch : List Operation} (rooted : store.rows.Rooted)
    (done : store.commit now batch = (.ok (), next)) : next.rows.Rooted := by
  rcases commit_ok done with ⟨_, t, writes, stored, rfl⟩ | ⟨_, rfl⟩
  · exact rooted.steps (Transaction.apply_all_steps stored)
  · exact rooted

-- Trees of the same rows differ in nothing but the version.
theorem Rows.Shows.eq_of_tree {rows : Rows ω} {tree other : Tree ω} {version : String} (shown : rows.Shows tree)
    (loaded : rows.tree version = .ok other) : other = { tree with version } := by
  obtain ⟨_, same⟩ := shown
  have renamed := Rows.tree_version same version
  rw [loaded] at renamed
  exact Except.ok.inj renamed

namespace Daemon

variable {daemon : Daemon ω (Workplace (Content ω))}

structure Anchored (daemon : Daemon ω (Workplace (Content ω))) : Prop where
  current : daemon.store.isCurrent = true
  rooted : daemon.store.rows.Rooted
  holding : Holding daemon.versions daemon.store.path (.database daemon.store.database)

-- A batch that is stored is exported and committed, and with the rest the version changes at most.
theorem apply_stored (mishaps : List (Option Mishap)) (now : Int) (batch : List Operation)
    {answer : Except Failure (Applied ω)} {next : Daemon ω (Workplace (Content ω) × List (Option Mishap))}
    (done : (daemon.under mishaps).apply now batch = (answer, next)) :
    (∃ failure, answer = .error failure ∧ next = daemon.under mishaps) ∨
    ∃ applied after store, answer = .ok applied ∧ daemon.store.commit now batch = (.ok (), store) ∧
      Keeps store next.store ∧ (Apart store.path → next.store.isCurrent = store.isCurrent) ∧
      next.store.rows.Shows applied.tree ∧
      ((applied.status = .deferred ∧ next.versions.1 = daemon.versions) ∨
        ∃ outcome, daemon.versions.commitUnder mishaps.head?.join (store.writeSnapshot now after).2.allFiles
          [store.path, snapshotFile] (commitMessage batch) = (outcome, next.versions.1) ∧
          applied.status = outcome.toOption.getD .deferred) := by
  rcases apply_cases (daemon.under mishaps) now batch with ⟨failure, _, same⟩ | ⟨_, failure, _, _, same⟩ |
    ⟨before, after, store, _, committed, reloaded, same⟩
  · rw [same] at done
    cases done
    exact Or.inl ⟨failure, rfl, rfl⟩
  · rw [same] at done
    cases done
    exact Or.inl ⟨.store failure, rfl, rfl⟩
  rw [same] at done
  cases done
  refine Or.inr ⟨_, after, store, rfl, committed, settle_keeps { daemon.under mishaps with store } now before after _,
    fun apart => settle_current { daemon.under mishaps with store } apart now before after _,
    settle_shows { daemon.under mishaps with store } (Store.shows_of_load reloaded) now before _, ?_⟩
  rw [settle_versions]
  have keeps := Store.write_snapshot_keeps store now after
  have status : (settle { daemon.under mishaps with store } now before after (commitMessage batch)).1.status =
      (exportTree { daemon.under mishaps with store } now after (commitMessage batch)).1 := rfl
  rw [status]
  rcases export_ways { daemon.under mishaps with store } now after (commitMessage batch) with deferred |
    ⟨_, outcome, versions, answered, exported⟩
  · rw [deferred]
    exact Or.inl ⟨rfl, rfl⟩
  · rw [exported]
    have attempted := Workplace.faulty_commit answered
    rw [keeps.path] at attempted
    exact Or.inr ⟨outcome, attempted, rfl⟩

theorem apply_advances (valid : Valid daemon.versions) (mishaps : List (Option Mishap)) (now : Int)
    (batch : List Operation) : Advances daemon.versions ((daemon.under mishaps).apply now batch).2.afterwards.versions := by
  have done := (Prod.eta ((daemon.under mishaps).apply now batch)).symm
  rcases apply_stored mishaps now batch done with ⟨_, _, same⟩ | ⟨_, after, store, _, _, _, _, _, ways⟩
  · rw [same]
    exact (Still.refl _).advances
  · rcases ways with ⟨_, same⟩ | ⟨outcome, attempted, _⟩
    · rw [afterwards, same]
      exact (Still.refl _).advances
    · have advances := Workplace.commit_under_advances daemon.versions valid mishaps.head?.join
        (store.writeSnapshot now after).2.allFiles [store.path, snapshotFile] (commitMessage batch)
      rw [attempted] at advances
      exact advances

theorem apply_lands [ExactOrd ω] (apart : Apart daemon.store.path) (anchored : daemon.Anchored)
    {mishaps : List (Option Mishap)} {now : Int} {batch : List Operation} {applied : Applied ω}
    {next : Daemon ω (Workplace (Content ω) × List (Option Mishap))}
    (done : (daemon.under mishaps).apply now batch = (.ok applied, next)) (settled : applied.status.pending = false) :
    next.afterwards.Anchored ∧ next.afterwards.versions.tip.isSome = true ∧ next.afterwards.store.rows.Shows applied.tree ∧
      ((applied.status.committed = false ∧ Rests daemon.versions next.afterwards.versions) ∨
        (applied.status.committed = true ∧ ∃ files,
          Commits daemon.versions next.afterwards.versions files [daemon.store.path, snapshotFile])) := by
  rcases apply_stored mishaps now batch done with
    ⟨_, impossible, _⟩ | ⟨same, after, store, answered, committed, keeps, current, shown, ways⟩
  · cases impossible
  cases answered
  have place := Store.commit_place daemon.store now batch
  rw [committed] at place
  obtain ⟨path, stillCurrent⟩ := place
  rcases ways with ⟨deferred, _⟩ | ⟨outcome, attempted, status⟩
  · rw [deferred] at settled
    cases settled
  · cases outcome with
    | error failure =>
        rw [status] at settled
        cases settled
    | ok answer =>
        have same : applied.status = answer := status
        have storeApart : Apart store.path := path ▸ apart
        have there : (store.writeSnapshot now after).2.file? store.path = some (.database store.database) := by
          have exported := Store.write_snapshot_keeps store now after
          have here := Store.file_at_path
            ((Store.write_snapshot_current storeApart now after).trans (stillCurrent.trans anchored.current))
          rw [exported.path, exported.database] at here
          exact here
        obtain ⟨holding, born, ways⟩ := Workplace.commit_lands (Workplace.commit_under_ok attempted) List.mem_cons_self there
          fun _ => Content.eq_of_same_database
        refine ⟨⟨?_, ?_, ?_⟩, born, shown, ?_⟩
        · exact (current storeApart).trans (stillCurrent.trans anchored.current)
        · have rooted := Store.rooted_of_commit anchored.rooted committed
          rw [Store.rows, ← keeps.database] at rooted
          exact rooted
        · rw [← keeps.path, ← keeps.database] at holding
          exact holding
        · rw [same, ← path]
          rcases ways with unmade | ⟨made, commits⟩
          · exact Or.inl unmade
          · exact Or.inr ⟨made, _, commits⟩

section

variable {σ : Type}

theorem branch_of_settle (daemon : Daemon ω σ) (now : Int) (before after : Tree ω) (message : String) :
    (daemon.settle now before after message).2.branch = daemon.branch := by
  have exported : (daemon.exportTree now after message).2.branch = daemon.branch := by
    unfold exportTree
    split <;> rfl
  have recorded : ((daemon.exportTree now after message).2.recordCommit after (daemon.exportTree now after message).1).2.branch =
      (daemon.exportTree now after message).2.branch := by
    unfold recordCommit
    split
    · rfl
    · split
      · rfl
      · split <;> rfl
  exact recorded.trans exported

theorem branch_of_apply (daemon : Daemon ω σ) (now : Int) (batch : List Operation) :
    (daemon.apply now batch).2.branch = daemon.branch := by
  rcases apply_cases daemon now batch with ⟨_, _, same⟩ | ⟨_, _, _, _, same⟩ | ⟨before, after, store, _, _, _, same⟩
  · rw [same]
  · rw [same]
  · rw [same]
    exact branch_of_settle { daemon with store } now before after (commitMessage batch)

theorem branch_of_adopt (daemon : Daemon ω σ) (now : Int) (before : Tree ω) :
    (daemon.adopt now before).2.branch = daemon.branch := by
  have headed (daemon : Daemon ω σ) (status : BranchStatus) : (daemon.recordHead status).2.branch = daemon.branch := by
    rw [record_head_eq]
  have reloaded (daemon : Daemon ω σ) : (daemon.reload now before).2.branch = daemon.branch := by
    unfold reload
    split
    · rfl
    · simp only
      split <;> rfl
  unfold adopt
  split
  · rename_i failure opened reopened
    exact (congrArg (·.2.branch) reopened).symm
  · rename_i opened reopened
    have first : opened.branch = daemon.branch := (congrArg (·.2.branch) reopened).symm
    split
    · rename_i failure asked answered
      exact ((congrArg (·.2.branch) answered).symm).trans first
    · rename_i status asked answered
      have second : asked.branch = daemon.branch := ((congrArg (·.2.branch) answered).symm).trans first
      have third := (headed asked status).trans second
      split
      · rename_i failure last recorded
        rw [recorded] at third
        exact third
      · rename_i last recorded
        rw [recorded] at third
        exact (reloaded last).trans third

end

theorem branch_of_pull (daemon : Daemon ω (Workplace (Content ω))) (mishaps : List (Option Mishap)) (now : Int) :
    ((daemon.under mishaps).pull now).2.branch = daemon.branch := by
  have done := (Prod.eta ((daemon.under mishaps).pull now)).symm
  rcases pull_taken done with ⟨_, _, _, branch, _⟩ | ⟨before, _, files, versions, _, _, adopted⟩
  · exact branch
  · exact (congrArg (·.2.branch) adopted).symm.trans (branch_of_adopt _ now before)

-- Adopting what was taken over does not move on any further.
theorem still_of_adopt {daemon next : Daemon ω (Workplace (Content ω) × List (Option Mishap))}
    (faulty : daemon.control = Workplace.faulty) {now : Int} {before : Tree ω} {answer : Except Failure (Tree ω)}
    (done : daemon.adopt now before = (answer, next)) : Still daemon.versions.1 next.versions.1 := by
  rcases adopt_ways daemon now before with ⟨failure, _, failed⟩ | ⟨opened, _, _, _, adopted, versions, _⟩
  · rw [failed] at done
    cases done
    exact .refl _
  · rw [adopted] at done
    cases done
    rw [versions, status, faulty]
    exact Workplace.still_status _ _ _

-- A database that was put in place is open then, and a pull that succeeds ends with the version of the last commit.
theorem adopt_lands {daemon next : Daemon ω (Workplace (Content ω) × List (Option Mishap))}
    (faulty : daemon.control = Workplace.faulty) (apart : Apart daemon.store.path) {number : Nat}
    (head : daemon.versions.1.head = some number) {database : Database ω}
    (placed : daemon.store.file? daemon.store.path = some (.database database)) (rooted : database.rows.Rooted)
    {now : Int} {before : Tree ω} {answer : Except Failure (Tree ω)} (done : daemon.adopt now before = (answer, next)) :
    next.store.path = daemon.store.path ∧ next.store.isCurrent = true ∧ next.store.database = database ∧
      next.versions.1 = daemon.versions.1 ∧
      ∀ tree, answer = .ok tree → next.store.load = .ok tree ∧ tree.version = hashOf number := by
  have opened := Store.reopen_of_file placed rooted.contains now
  rcases adopt_ways daemon now before with ⟨failure, closed, _⟩ | ⟨store, _, _, reopened, adopted, versions, ways⟩
  · rw [opened] at closed
    cases closed
  rw [adopted] at done
  cases done
  have same : store = { daemon.store with database, isCurrent := true, files := daemon.store.allFiles } :=
    (congrArg Prod.snd (opened.symm.trans reopened)).symm
  have path : store.path = daemon.store.path := by rw [same]
  have still : next.versions.1 = daemon.versions.1 := by
    rw [versions, status, faulty]
    exact Workplace.status_under_of_head head _ _
  obtain ⟨shift, after⟩ : ∃ shift, next.store = (store.headed shift).2 := by
    rcases ways with ⟨_, _, _, after⟩ | ⟨status, _, after, _⟩
    · exact ⟨none, after⟩
    · exact ⟨status.localHash, after⟩
  have keeps := Store.headed_keeps store shift
  have current := Store.headed_current (path ▸ apart) shift
  rw [← after] at keeps current
  refine ⟨keeps.path.trans path, current.trans (by rw [same]), keeps.database.trans (by rw [same]), still, ?_⟩
  intro tree succeeded
  rcases ways with ⟨_, _, failed, _⟩ | ⟨status, answered, after, ⟨_, failed⟩ | ⟨other, went, recorded, loaded⟩⟩
  · rw [failed] at succeeded
    cases succeeded
  · rw [failed] at succeeded
    cases succeeded
  · rw [went] at succeeded
    cases succeeded
    refine ⟨loaded, ?_⟩
    have localHash : status.localHash = some (hashOf number) := by
      rw [Daemon.status, faulty] at answered
      rw [Workplace.faulty_status (map_error_ok.mp answered), Workplace.prepare_of_head head, Workplace.status, head]
      rfl
    rw [localHash] at recorded after
    have version := Store.version_of_record (hash_tidy number) recorded
    rw [← Store.headed, ← after, Store.version_of_load loaded] at version
    exact Except.ok.inj version

theorem pull_advances (daemon : Daemon ω (Workplace (Content ω))) (mishaps : List (Option Mishap)) (now : Int) :
    Advances daemon.versions ((daemon.under mishaps).pull now).2.afterwards.versions := by
  have done := (Prod.eta ((daemon.under mishaps).pull now)).symm
  rcases pull_taken done with ⟨_, _, _, _, still⟩ | ⟨before, asked, files, versions, looked, moved, adopted⟩
  · exact still.advances
  · have settled := still_of_adopt rfl adopted
    exact looked.advances.trans ((Workplace.pull_advances moved).trans settled.advances)

-- What daemons have committed can be opened.
def Opens (place : Workplace (Content ω)) (path : String) (number : Nat) : Prop :=
  ∃ database, (place.depot.history.filesOf number).get? path = some (.database database) ∧ database.rows.Rooted

theorem pull_lands [ExactOrd ω] (apart : Apart daemon.store.path) (anchored : daemon.Anchored)
    (opens : ∀ remote number, daemon.versions.repository.origin = some remote →
      daemon.versions.depot.head? remote daemon.branch = some number → Opens daemon.versions daemon.store.path number)
    {mishaps : List (Option Mishap)} {now : Int} {answer : Except Failure (Tree ω)}
    {next : Daemon ω (Workplace (Content ω) × List (Option Mishap))}
    (done : (daemon.under mishaps).pull now = (answer, next)) :
    next.afterwards.store.path = daemon.store.path ∧ next.afterwards.Anchored ∧ ∀ tree, answer = .ok tree → ∃ remote number,
      daemon.versions.repository.origin = some remote ∧ daemon.versions.depot.head? remote daemon.branch = some number ∧
      (daemon.versions.depot.history.filesOf number).get? daemon.store.path = some (.database next.afterwards.store.database) ∧
      next.afterwards.store.load = .ok tree ∧ tree.version = hashOf number ∧
      next.afterwards.status.1 = .ok ⟨some (hashOf number), some (hashOf number), 0, 0⟩ := by
  rcases pull_taken done with ⟨failure, rfl, store, _, still⟩ |
    ⟨before, asked, files, versions, looked, moved, adopted⟩
  · refine ⟨congrArg Store.path store, ⟨?_, ?_, ?_⟩, fun tree impossible => by cases impossible⟩
    · rw [afterwards, store]
      exact anchored.current
    · rw [afterwards, store]
      exact anchored.rooted
    · rw [afterwards, store]
      exact still.holding anchored.holding
  · obtain ⟨remote, number, origin, there, head, position⟩ := Workplace.status_of_pull moved
    obtain ⟨_, _, _, _, depot, _⟩ := Workplace.head_of_pull moved
    have ours : daemon.versions.repository.origin = some remote := (congrArg Prod.fst looked.seat).symm.trans origin
    rw [looked.rests.depot] at there depot
    obtain ⟨database, found, rooted⟩ := opens remote number ours there
    have goal : ∀ last, versions.1.head = some last →
        (asked.depot.history.filesOf last).get? daemon.store.path = some (.database database) := by
      intro last same
      rw [head] at same
      cases same
      rw [looked.rests.depot]
      exact found
    obtain ⟨placed, staged⟩ := Workplace.pull_lands moved (looked.holding anchored.holding)
      (Store.file_at_path anchored.current) (fun _ => Content.eq_of_same_database) goal
    obtain ⟨path, current, opened, still, lands⟩ := adopt_lands rfl apart head (by exact placed) rooted adopted
    have branch : next.branch = daemon.branch := (congrArg (·.2.branch) adopted).symm.trans (branch_of_adopt _ now before)
    refine ⟨path, ⟨current, ?_, ?_⟩, ?_⟩
    · show Rows.Rooted next.store.database.rows
      rw [opened]
      exact rooted
    · show Holding next.versions.1 next.store.path (.database next.store.database)
      rw [still, opened, path]
      intro last tip
      rw [Workplace.tip_of_head head] at tip
      cases tip
      rw [depot]
      exact ⟨found, staged⟩
    · intro tree succeeded
      obtain ⟨loaded, version⟩ := lands tree succeeded
      refine ⟨remote, number, ours, there, ?_, loaded, version, ?_⟩
      · rw [found, ← opened]
        rfl
      · rw [status_ours rfl]
        show Except.ok (next.versions.1.prepare.status next.branch) = _
        rw [still, branch, Workplace.prepare_of_head head, position]

end Daemon

end Bookmarks
