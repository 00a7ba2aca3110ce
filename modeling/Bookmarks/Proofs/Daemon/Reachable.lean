import Bookmarks.Proofs.Daemon.Effects
import Bookmarks.Proofs.Store.Batch

/-!
The states of a daemon that calls lead to. In all of them the database is open and holds what daemons
have written (`Reachable.settled`).
-/
set_option autoImplicit false

namespace Bookmarks.Daemon

open Store (Keeps Apart)

variable {ω σ : Type} [WrittenOrd ω] {daemon : Daemon ω σ} {files : Files ω} {path : String} {now : Int}
  {batch : List Operation}

-- There is no database yet, or one that daemons have written.
def Committed (files : Files ω) (path : String) : Prop :=
  files.get? path = none ∨
    ∃ born rows writes, Written born rows ∧ files.get? path = some (.database ⟨rows, writes⟩)

-- The ids that the batch needs are new to the store.
def FreshFor (daemon : Daemon ω σ) (now : Int) (batch : List Operation) : Prop :=
  Fresh daemon.store.rows (newIds daemon.store.ids now batch)

/-- The states that calls lead to, in any order, from a profile that is new or was left by an earlier daemon.
The remote branch holds nothing but what daemons have committed; which answers the version control gives
is left open. -/
inductive Reachable : Daemon ω σ → Prop
  | opened (files : Files ω) (path : String) (ids : IdSource) (now : Int) (store : Store ω) (branch : String)
      (control : VersionControl (Content ω) σ) (versions : σ) (apart : Apart path) (committed : Committed files path)
      (opens : Store.openAt files path ids now = .ok store) : Reachable (Daemon.start store branch control versions)
  | apply (daemon : Daemon ω σ) (now : Int) (batch : List Operation) (reachable : Reachable daemon)
      (fresh : daemon.FreshFor now batch) : Reachable (daemon.apply now batch).2
  | status (daemon : Daemon ω σ) (reachable : Reachable daemon) : Reachable daemon.status.2
  | push (daemon : Daemon ω σ) (reachable : Reachable daemon) : Reachable daemon.push.2
  | pull (daemon : Daemon ω σ) (now : Int) (reachable : Reachable daemon)
      (committed : ∀ files versions, daemon.control.pull daemon.status.2.versions daemon.store.allFiles daemon.branch =
        (.ok files, versions) → Committed files daemon.store.path) : Reachable (daemon.pull now).2
  | subscribe (daemon : Daemon ω σ) (hub : Hub Change) (reachable : Reachable daemon) :
      Reachable { daemon with hub }

-- The database is the one at its path, and daemons have written it.
structure Settled (store : Store ω) : Prop where
  current : store.isCurrent = true
  apart : Apart store.path
  written : ∃ born, Written born store.rows

theorem Settled.keeps {store next : Store ω} (settled : Settled store) (keeps : Keeps store next)
    (current : next.isCurrent = store.isCurrent) : Settled next := by
  refine ⟨current.trans settled.current, ?_, ?_⟩
  · rw [keeps.path]
    exact settled.apart
  · obtain ⟨born, written⟩ := settled.written
    refine ⟨born, ?_⟩
    rw [keeps.rows]
    exact written

theorem initialized_empty (now : Int) :
    Written now (Store.initialized (⟨∅, 0⟩ : Database ω) now).rows := by
  have absent : ¬ Keyed.contains (∅ : Rows ω) rootId = true := by simp [Keyed.contains, Keyed.get?_empty]
  simp only [Store.initialized, absent]
  exact .root

theorem apply_written {born : Int} (written : Written born daemon.store.rows) (fresh : daemon.FreshFor now batch) :
    Written born (daemon.apply now batch).2.store.rows := by
  rcases apply_cases daemon now batch with ⟨failure, _, same⟩ | ⟨before, failure, _, _, same⟩ |
    ⟨before, after, store, checked, committed, _, same⟩
  · rw [same]
    exact written
  · rw [same]
    exact written
  · obtain ⟨loaded, p, accepted⟩ := check_ok checked
    have settled := settle_keeps { daemon with store } now before after (commitMessage batch)
    rw [same, Store.rows, settled.database]
    rcases Store.commit_ok committed with ⟨_, t, writes, stored, rfl⟩ | ⟨_, rfl⟩
    · obtain ⟨version, _, shown⟩ := bind_eq_ok.mp loaded
      exact .batch daemon.store.rows version before batch p daemon.store.ids now t written shown accepted fresh stored
    · exact written

theorem Settled.commit_eq {store : Store ω} {t : Transaction ω} (settled : Settled store)
    (stored : (Transaction.mk store.rows store.ids).applyAll now batch = .ok t) :
    ∃ writes, store.commit now batch = (.ok (), { store with database := ⟨t.rows, writes⟩, ids := t.ids }) := by
  unfold Store.commit
  rw [if_pos settled.current, stored]
  exact ⟨_, rfl⟩

theorem apply_settled (settled : Settled daemon.store) (fresh : daemon.FreshFor now batch) :
    Settled (daemon.apply now batch).2.store := by
  obtain ⟨born, written⟩ := settled.written
  have stored := apply_written written fresh
  have place := Store.commit_place daemon.store now batch
  rcases apply_cases daemon now batch with ⟨failure, _, same⟩ | ⟨before, failure, _, _, same⟩ |
    ⟨before, after, store, _, committed, _, same⟩
  · rw [same]
    exact settled
  · rw [same]
    exact settled
  · rw [committed] at place
    have apart : Apart store.path := place.1 ▸ settled.apart
    have kept := settle_keeps { daemon with store } now before after (commitMessage batch)
    have current := settle_current { daemon with store } apart now before after (commitMessage batch)
    rw [same] at stored ⊢
    exact ⟨current.trans (place.2.trans settled.current), kept.path ▸ apart, born, stored⟩

theorem record_head_settled (settled : Settled daemon.store) (status : BranchStatus) :
    Settled (daemon.recordHead status).2.store := by
  unfold recordHead
  split
  · exact settled
  · rename_i hash _
    exact settled.keeps (Store.record_version_keeps daemon.store hash)
      (Store.record_version_current settled.apart hash)

variable [LinearOrder ω] [RoomyOrd ω]

theorem initialized_written {born : Int} {rows : Rows ω} (written : Written born rows) (writes : Nat) (now : Int) :
    Store.initialized ⟨rows, writes⟩ now = ⟨rows, writes⟩ := by
  have present : rows.contains rootId = true := Keyed.contains_iff.mpr ⟨_, written.sound.rooted⟩
  simp only [Store.initialized, present, if_true]

theorem open_settled (apart : Apart path) (committed : Committed files path) (ids : IdSource) (now : Int) :
    ∃ store, Store.openAt files path ids now = .ok store ∧ Settled store := by
  rcases committed with missing | ⟨born, rows, writes, written, found⟩
  · refine ⟨_, by simp only [Store.openAt, missing]; rfl, rfl, apart, now, ?_⟩
    exact initialized_empty now
  · refine ⟨_, by simp only [Store.openAt, found]; rfl, rfl, apart, born, ?_⟩
    simp only [Store.rows, initialized_written written writes now]
    exact written

-- The files that were fetched are those at hand when the database is opened again.
theorem adopt_settled (daemon : Daemon ω σ) (apart : Apart daemon.store.path)
    (committed : Committed daemon.store.allFiles daemon.store.path) (now : Int) (before : Tree ω) :
    Settled (daemon.adopt now before).2.store := by
  obtain ⟨store, opens, settled⟩ := open_settled apart committed daemon.store.ids now
  have reopened : daemon.reopen now = (.ok (), { daemon with store }) := by
    simp only [reopen, Store.reopen, opens]
    rfl
  unfold adopt
  rw [reopened]
  simp only
  split
  · rename_i failure next answer
    have same : next = (status { daemon with store }).2 := (congrArg Prod.snd answer).symm
    rw [same]
    exact settled
  · rename_i position next answer
    have same : next = (status { daemon with store }).2 := (congrArg Prod.snd answer).symm
    have stillSettled : Settled next.store := by
      rw [same]
      exact settled
    have recorded := record_head_settled stillSettled position
    split
    · rename_i failure last recordedAnswer
      rw [recordedAnswer] at recorded
      exact recorded
    · rename_i last recordedAnswer
      rw [recordedAnswer] at recorded
      rw [reload_store]
      exact recorded

theorem pull_settled (settled : Settled daemon.store)
    (committed : ∀ files versions, daemon.control.pull daemon.status.2.versions daemon.store.allFiles daemon.branch =
      (.ok files, versions) → Committed files daemon.store.path) : Settled (daemon.pull now).2.store := by
  unfold pull
  split
  · exact settled
  · rename_i before _
    split
    · rename_i failure next answer
      have same : next = daemon.status.2 := (congrArg Prod.snd answer).symm
      rw [same]
      exact settled
    · rename_i position next answer
      have same : next = daemon.status.2 := (congrArg Prod.snd answer).symm
      subst same
      split
      · exact settled
      · unfold fetch
        cases pulled : daemon.status.2.control.pull daemon.status.2.versions daemon.status.2.store.allFiles
            daemon.status.2.branch with
        | mk outcome versions =>
            cases outcome with
            | error failure => exact settled
            | ok files =>
                exact adopt_settled { daemon with store := daemon.store.withFiles files, versions } settled.apart
                  (committed files versions pulled) now before

theorem Reachable.settled (reachable : Reachable daemon) : Settled daemon.store := by
  induction reachable with
  | opened files path ids now store branch control versions apart committed opens =>
      obtain ⟨same, opensSame, settled⟩ := open_settled apart committed ids now
      rw [opens] at opensSame
      cases opensSame
      exact settled
  | apply daemon now batch _ fresh ih => exact apply_settled ih fresh
  | status daemon _ ih => exact ih
  | push daemon _ ih => exact ih
  | pull daemon now _ committed ih => exact pull_settled ih committed
  | subscribe daemon hub _ ih => exact ih

-- A profile that is opened for the first time, without version control.
def newcomer : Daemon ℚ Unit :=
  start ⟨"state.db", Store.initialized ⟨∅, 0⟩ 0, true, ∅, {}⟩ "main" (VersionControl.disabled _) ()

theorem newcomer_reachable : Reachable newcomer :=
  .opened ∅ "state.db" {} 0 newcomer.store "main" (VersionControl.disabled _) ()
    ⟨by decide, by decide, by decide, by decide⟩ (Or.inl rfl) rfl

theorem newcomer_accepts (batch : List Operation) (accepted : (newcomer.check batch).isOk = true) :
    ∃ before p, newcomer.store.load = .ok before ∧ before.project batch = .ok p := by
  cases checked : newcomer.check batch with
  | error failure =>
      rw [checked] at accepted
      cases accepted
  | ok before =>
      obtain ⟨loaded, p, projected⟩ := check_ok checked
      exact ⟨before, p, loaded, projected⟩

theorem newcomer_fresh (now : Int) (batch : List Operation) (distinct : (newIds {} now batch).Nodup)
    (others : rootId ∉ newIds {} now batch) :
    newcomer.FreshFor now batch := by
  refine ⟨distinct, ?_⟩
  intro id member
  have different : rootId ≠ id := fun same => others (same ▸ member)
  show Keyed.get? (Keyed.insert ∅ rootId (Rows.rootRow 0)) id = none
  rw [Keyed.get?_insert, if_neg different, Keyed.get?_empty]

end Bookmarks.Daemon
