import Bookmarks.Proofs.Daemon.Reachable

/-!
What the check of a batch promises. A batch that is accepted can be stored, and the tree that comes of it
is the one that was checked, unless the batch names a node that it adds itself.
-/
set_option autoImplicit false

namespace Bookmarks.Daemon

open Projection (pendingId)

variable {ω σ : Type} [WrittenOrd ω] {daemon : Daemon ω σ} {now : Int} {batch : List Operation} {before : Tree ω}
  {p : Projection}

-- The tree that is stored is the one that is loaded from then on.
theorem Settled.apply_of_stored {store : Store ω} {t : Transaction ω} {version : String} {after : Tree ω}
    (settled : Settled store) (read : store.version = .ok version)
    (stored : (Transaction.mk store.rows store.ids).applyAll now batch = .ok t)
    (shown : t.rows.tree version = .ok after) : (store.apply now batch).1 = .ok after := by
  obtain ⟨writes, committed⟩ := settled.commit_eq stored
  simp only [Store.apply, committed, Store.load]
  exact (bind_of_ok (Store.version_of_database read _ _) _).trans shown

variable [LinearOrder ω] [RoomyOrd ω]

theorem Settled.apply_ok {store : Store ω} (settled : Settled store) (loaded : store.load = .ok before)
    (accepted : before.project batch = .ok p) (fresh : Fresh store.rows (newIds store.ids now batch))
    (plain : ∀ operation ∈ batch, ∀ id ∈ operation.names, ¬ IsPending id) :
    ∃ after, (store.apply now batch).1 = .ok after ∧ Becomes (exchange 1 (newIds store.ids now batch)) p after := by
  obtain ⟨born, written⟩ := settled.written
  obtain ⟨version, read, shown⟩ := bind_eq_ok.mp loaded
  obtain ⟨t, stored, agrees⟩ := stored_of_project written.sound shown accepted fresh plain
  obtain ⟨after, reloaded, becomes⟩ := becomes_of_agrees agrees version
  exact ⟨after, settled.apply_of_stored read stored reloaded, becomes⟩

theorem Settled.plain_of_apply {store : Store ω} {after : Tree ω} (settled : Settled store)
    (loaded : store.load = .ok before) (accepted : before.project batch = .ok p)
    (fresh : Fresh store.rows (newIds store.ids now batch)) (applied : (store.apply now batch).1 = .ok after) :
    ∀ operation ∈ batch, ∀ id ∈ operation.names, ¬ IsPending id := by
  obtain ⟨born, written⟩ := settled.written
  obtain ⟨version, read, shown⟩ := bind_eq_ok.mp loaded
  cases stored : (Transaction.mk store.rows store.ids).applyAll now batch with
  | ok t => exact plain_of_stored written.sound shown accepted fresh stored
  | error failure =>
      simp only [Store.apply, Store.commit, settled.current, if_true, stored] at applied
      cases applied

-- The tree of the projection: every node, every parent and every list of children under its new name.
theorem accepted_batch_becomes_tree (reachable : Reachable daemon) (loaded : daemon.store.load = .ok before)
    (accepted : before.project batch = .ok p)
    (plain : ∀ operation ∈ batch, ∀ id ∈ operation.names, ¬ IsPending id)
    (fresh : daemon.FreshFor now batch) :
    ∃ (after : Tree ω) (f : Equiv.Perm String), (daemon.store.apply now batch).1 = .ok after ∧
      (∀ id, before.nodes.contains id = true → f id = id) ∧
      (∀ number, number < p.pending →
        (newIds daemon.store.ids now batch)[number]? = some (f (pendingId (number + 1)))) ∧
      Becomes f p after := by
  have settled := reachable.settled
  obtain ⟨after, applied, becomes⟩ := settled.apply_ok loaded accepted fresh plain
  obtain ⟨born, written⟩ := settled.written
  obtain ⟨version, _, shown⟩ := bind_eq_ok.mp loaded
  refine ⟨after, exchange 1 (newIds daemon.store.ids now batch), applied, ?_, ?_, becomes⟩
  · intro id there
    rw [Rows.contains_of_tree shown] at there
    exact exchange_row written.sound fresh there
  · intro number inside
    rw [pending_of_project accepted] at inside
    rw [newIds, names_exchange fresh.nodup number inside]
    exact IdSource.made_get inside

-- Three folders, the second before and the third after the first.
theorem accepted_batch_becomes_tree_newcomer :
    ∃ (before : Tree ℚ) (p : Projection) (after : Tree ℚ) (f : Equiv.Perm String),
      before.project [.addFolder "root" "A" none, .addFolder "root" "B" (some 0),
        .saveSession "root" "C" [] (some 2)] = .ok p ∧
      (newcomer.store.apply 1 [.addFolder "root" "A" none, .addFolder "root" "B" (some 0),
        .saveSession "root" "C" [] (some 2)]).1 = .ok after ∧
      f "root" = "root" ∧ f (pendingId 3) = "00000000000170000000000000000003" ∧ Becomes f p after := by
  obtain ⟨before, p, loaded, accepted⟩ := newcomer_accepts [.addFolder "root" "A" none,
    .addFolder "root" "B" (some 0), .saveSession "root" "C" [] (some 2)] (by decide +kernel)
  obtain ⟨after, f, applied, fixed, named, becomes⟩ := accepted_batch_becomes_tree newcomer_reachable loaded accepted
    (by decide +kernel) (newcomer_fresh 1 _ (by decide +kernel) (by decide +kernel))
  refine ⟨before, p, after, f, accepted, applied, fixed rootId ?_, ?_, becomes⟩
  · obtain ⟨version, _, shown⟩ := bind_eq_ok.mp loaded
    rw [Rows.contains_of_tree shown]
    decide +kernel
  · have third := named 2 (by rw [pending_of_project accepted]; decide)
    have made : (newIds newcomer.store.ids 1 [.addFolder "root" "A" none, .addFolder "root" "B" (some 0),
        .saveSession "root" "C" [] (some 2)])[2]? = some "00000000000170000000000000000003" := by
      decide +kernel
    rw [made] at third
    exact (Option.some.inj third).symm

/-- Whether an accepted batch is stored depends on its names alone: it is not stored if it names a node
by a number. Every other name has a row at the moment when it is used. -/
theorem accepted_batch_stored_iff (reachable : Reachable daemon) (loaded : daemon.store.load = .ok before)
    (accepted : before.project batch = .ok p) (fresh : daemon.FreshFor now batch) :
    ((∃ after, (daemon.store.apply now batch).1 = .ok after) ↔
      ∀ operation ∈ batch, ∀ id ∈ operation.names, ¬ IsPending id) ∧
    ∀ done operation rest t, batch = done ++ operation :: rest →
      (Transaction.mk daemon.store.rows daemon.store.ids).applyAll now done = .ok t →
      ∀ id ∈ operation.names, t.rows.contains id = true ↔ ¬ IsPending id := by
  have settled := reachable.settled
  obtain ⟨born, written⟩ := settled.written
  obtain ⟨version, _, shown⟩ := bind_eq_ok.mp loaded
  refine ⟨⟨?_, ?_⟩, ?_⟩
  · rintro ⟨after, applied⟩
    exact settled.plain_of_apply loaded accepted fresh applied
  · intro plain
    obtain ⟨after, applied, _⟩ := settled.apply_ok loaded accepted fresh plain
    exact ⟨after, applied⟩
  · intro done operation rest t split stored id named
    subst split
    exact row_of_name written.sound shown accepted fresh stored named

-- The second operation names the folder that the first one adds.
theorem accepted_batch_stored_iff_newcomer :
    ¬ ∃ after, (newcomer.store.apply 1 [.addFolder "root" "A" none, .renameNode "pending:1" "B"]).1 = .ok after := by
  obtain ⟨before, p, loaded, accepted⟩ := newcomer_accepts [.addFolder "root" "A" none,
    .renameNode "pending:1" "B"] (by decide +kernel)
  have condition := (accepted_batch_stored_iff newcomer_reachable loaded accepted
    (newcomer_fresh 1 _ (by decide +kernel) (by decide +kernel))).1
  rw [condition]
  decide +kernel

-- Acceptance does not promise storage.
theorem accepted_batch_not_stored :
    Reachable newcomer ∧
    (∃ before p, newcomer.store.load = .ok before ∧
      before.project [.addFolder "root" "A" none, .renameNode "pending:1" "B"] = .ok p) ∧
    (newcomer.store.commit 1 [.addFolder "root" "A" none, .renameNode "pending:1" "B"]).1 =
      .error (.noRows "rename_node" "pending:1") :=
  ⟨newcomer_reachable, newcomer_accepts _ (by decide +kernel), by decide +kernel⟩

end Bookmarks.Daemon
