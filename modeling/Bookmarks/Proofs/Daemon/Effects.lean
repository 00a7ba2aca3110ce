import Bookmarks.Daemon.Basic
import Bookmarks.Proofs.Outcome
import Bookmarks.Proofs.Store.Reload
import Bookmarks.Proofs.Store.Upkeep

/-!
The steps that a batch goes through: what its check asks for, and that all which follows its storage
leaves the database alone.
-/
set_option autoImplicit false

namespace Bookmarks.Daemon

open Store (Keeps Apart)

variable {ω σ : Type} [WrittenOrd ω] {daemon : Daemon ω σ}

theorem check_ok {batch : List Operation} {before : Tree ω} (checked : daemon.check batch = .ok before) :
    daemon.store.load = .ok before ∧ ∃ p, before.project batch = .ok p := by
  by_cases empty : batch.isEmpty = true
  · simp only [check, if_pos empty] at checked
    cases checked
  · simp only [check, if_neg empty] at checked
    obtain ⟨tree, loaded, rest⟩ := bind_eq_ok.mp checked
    obtain ⟨p, accepted, result⟩ := bind_eq_ok.mp rest
    cases result
    exact ⟨map_error_ok.mp loaded, p, map_error_ok.mp accepted⟩

-- The ways in which a batch can end: it is refused, it is not stored, or it is stored and settled.
theorem apply_cases (daemon : Daemon ω σ) (now : Int) (batch : List Operation) :
    (∃ failure, daemon.check batch = .error failure ∧ daemon.apply now batch = (.error failure, daemon)) ∨
    (∃ before failure, daemon.check batch = .ok before ∧
      daemon.store.commit now batch = (.error failure, daemon.store) ∧
      daemon.apply now batch = (.error (.store failure), daemon)) ∨
    ∃ before after store, daemon.check batch = .ok before ∧ daemon.store.commit now batch = (.ok (), store) ∧
      store.load = .ok after ∧
      daemon.apply now batch =
        (.ok (settle { daemon with store } now before after (commitMessage batch)).1,
          (settle { daemon with store } now before after (commitMessage batch)).2) := by
  unfold apply
  cases checked : daemon.check batch with
  | error failure => exact Or.inl ⟨failure, rfl, rfl⟩
  | ok before =>
      obtain ⟨loaded, _⟩ := check_ok checked
      cases answer : daemon.store.commit now batch with
      | mk outcome store =>
          cases outcome with
          | error failure =>
              have same := Store.commit_error answer
              subst same
              exact Or.inr (Or.inl ⟨before, failure, rfl, rfl, by simp only [Store.apply, answer]⟩)
          | ok _ =>
              -- the tree could be loaded before, so it can be loaded now
              obtain ⟨after, reloaded⟩ := Store.load_of_commit loaded answer
              exact Or.inr (Or.inr ⟨before, after, store, rfl, rfl, reloaded,
                by simp only [Store.apply, answer, reloaded]⟩)

omit [WrittenOrd ω] in
theorem export_store (daemon : Daemon ω σ) (now : Int) (tree : Tree ω) (message : String) :
    (daemon.exportTree now tree message).2.store = (daemon.store.writeSnapshot now tree).2 := by
  unfold exportTree
  cases answer : daemon.store.writeSnapshot now tree with
  | mk outcome store => cases outcome <;> rfl

omit [WrittenOrd ω] in
theorem record_commit_store (daemon : Daemon ω σ) (tree : Tree ω) (status : CommitStatus) :
    (daemon.recordCommit tree status).2.store = daemon.store ∨
      ∃ hash, (daemon.recordCommit tree status).2.store = (daemon.store.recordVersion hash).2 := by
  unfold recordCommit
  cases status.hash with
  | none => exact Or.inl rfl
  | some hash =>
      by_cases known : hash = tree.version
      · exact Or.inl (by simp [known])
      · refine Or.inr ⟨hash, ?_⟩
        simp only [if_neg known]
        cases answer : daemon.store.recordVersion hash with
        | mk outcome store => cases outcome <;> rfl

theorem reload_store (daemon : Daemon ω σ) (now : Int) (before : Tree ω) :
    (daemon.reload now before).2.store = daemon.store := by
  unfold reload
  split
  · rfl
  · simp only
    split <;> rfl

omit [WrittenOrd ω] in
theorem export_keeps (daemon : Daemon ω σ) (now : Int) (tree : Tree ω) (message : String) :
    Keeps daemon.store (daemon.exportTree now tree message).2.store := by
  rw [export_store]
  exact Store.write_snapshot_keeps daemon.store now tree

omit [WrittenOrd ω] in
theorem export_current (apart : Apart daemon.store.path) (now : Int) (tree : Tree ω) (message : String) :
    (daemon.exportTree now tree message).2.store.isCurrent = daemon.store.isCurrent := by
  rw [export_store]
  exact Store.write_snapshot_current apart now tree

omit [WrittenOrd ω] in
theorem record_commit_keeps (daemon : Daemon ω σ) (tree : Tree ω) (status : CommitStatus) :
    Keeps daemon.store (daemon.recordCommit tree status).2.store := by
  rcases record_commit_store daemon tree status with same | ⟨hash, same⟩
  · rw [same]
    exact .refl daemon.store
  · rw [same]
    exact Store.record_version_keeps daemon.store hash

omit [WrittenOrd ω] in
theorem record_commit_current (apart : Apart daemon.store.path) (tree : Tree ω) (status : CommitStatus) :
    (daemon.recordCommit tree status).2.store.isCurrent = daemon.store.isCurrent := by
  rcases record_commit_store daemon tree status with same | ⟨hash, same⟩
  · rw [same]
  · rw [same]
    exact Store.record_version_current apart hash

theorem settle_keeps (daemon : Daemon ω σ) (now : Int) (before after : Tree ω) (message : String) :
    Keeps daemon.store (daemon.settle now before after message).2.store :=
  (export_keeps daemon now after message).trans (record_commit_keeps _ after _)

theorem settle_current (daemon : Daemon ω σ) (apart : Apart daemon.store.path) (now : Int)
    (before after : Tree ω) (message : String) :
    (daemon.settle now before after message).2.store.isCurrent = daemon.store.isCurrent := by
  have exported := export_current apart now after message
  have stillApart : Apart (daemon.exportTree now after message).2.store.path := by
    rw [(export_keeps daemon now after message).path]
    exact apart
  exact (record_commit_current stillApart after _).trans exported

theorem settle_version (daemon : Daemon ω σ) (now : Int) (before after : Tree ω) (message : String)
    (readable : ∃ version, daemon.store.version = .ok version) :
    ∃ version, (daemon.settle now before after message).2.store.version = .ok version := by
  have exported : ∃ version, (daemon.exportTree now after message).2.store.version = .ok version := by
    rw [export_store]
    exact Store.version_of_replace rfl snapshotFile readable
  show ∃ version, ((daemon.exportTree now after message).2.recordCommit after
    (daemon.exportTree now after message).1).2.store.version = .ok version
  rcases record_commit_store (daemon.exportTree now after message).2 after
    (daemon.exportTree now after message).1 with same | ⟨hash, same⟩
  · rw [same]
    exact exported
  · rw [same]
    exact Store.version_of_replace rfl _ exported

-- A daemon whose tree could be loaded can load it after any batch.
theorem load_of_apply {before : Tree ω} (loaded : daemon.store.load = .ok before) (now : Int)
    (batch : List Operation) : ∃ after, (daemon.apply now batch).2.store.load = .ok after := by
  rcases apply_cases daemon now batch with ⟨failure, _, same⟩ | ⟨_, failure, _, _, same⟩ |
    ⟨earlier, after, store, _, _, reloaded, same⟩
  · rw [same]
    exact ⟨before, loaded⟩
  · rw [same]
    exact ⟨before, loaded⟩
  · rw [same]
    obtain ⟨version, read, shown⟩ := bind_eq_ok.mp reloaded
    have kept := settle_keeps { daemon with store } now earlier after (commitMessage batch)
    obtain ⟨later, readLater⟩ := settle_version { daemon with store } now earlier after (commitMessage batch)
      ⟨version, read⟩
    obtain ⟨tree, shownLater, _⟩ := Rows.tree_ok (Rows.legible_of_tree shown) later
    refine ⟨tree, (bind_of_ok readLater _).trans ?_⟩
    rw [← shownLater]
    simp only [Store.rows]
    rw [← kept.database]

end Bookmarks.Daemon
