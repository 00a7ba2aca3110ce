import Bookmarks.Proofs.Daemon.Reachable

/-!
What holds after any number of batches, accepted or not.
-/
set_option autoImplicit false

namespace Bookmarks.Daemon

variable {ω σ : Type} [WrittenOrd ω] {daemon : Daemon ω σ} {born : Int}

-- Applies one batch after another, each at its time.
def applyEach (daemon : Daemon ω σ) (calls : List (Int × List Operation)) : Daemon ω σ :=
  calls.foldl (fun daemon call => (daemon.apply call.1 call.2).2) daemon

-- At each call the ids that the batch needs are new.
def FreshRun (daemon : Daemon ω σ) : List (Int × List Operation) → Prop
  | [] => True
  | (now, batch) :: rest => daemon.FreshFor now batch ∧ FreshRun (daemon.apply now batch).2 rest

theorem apply_each_written {calls : List (Int × List Operation)} (written : Written born daemon.store.rows)
    (fresh : FreshRun daemon calls) : Written born (daemon.applyEach calls).store.rows := by
  induction calls generalizing daemon with
  | nil => exact written
  | cons call rest ih =>
      obtain ⟨here, later⟩ := fresh
      exact ih (apply_written written here) later

theorem load_of_apply_each {before : Tree ω} (loaded : daemon.store.load = .ok before)
    (calls : List (Int × List Operation)) : ∃ after, (daemon.applyEach calls).store.load = .ok after := by
  induction calls generalizing daemon before with
  | nil => exact ⟨before, loaded⟩
  | cons call rest ih =>
      obtain ⟨between, reloaded⟩ := load_of_apply loaded call.1 call.2
      exact ih reloaded

theorem open_written {files : Files ω} {path : String} {ids : IdSource} {store : Store ω}
    (missing : files.get? path = none) (opens : Store.openAt files path ids born = .ok store) :
    Written born store.rows := by
  simp only [Store.openAt, missing] at opens
  cases opens
  exact initialized_empty born

variable [LinearOrder ω] [RoomyOrd ω]

/-- However many batches a new profile has seen, every tree that is loaded from it is well formed. -/
theorem loaded_tree_well_formed {files : Files ω} {path : String} {ids : IdSource} {store : Store ω} {tree : Tree ω}
    (missing : files.get? path = none) (opens : Store.openAt files path ids born = .ok store) (branch : String)
    (control : VersionControl (Content ω) σ) (versions : σ) (calls : List (Int × List Operation))
    (fresh : FreshRun (start store branch control versions) calls)
    (loaded : ((start store branch control versions).applyEach calls).store.load = .ok tree) :
    tree.WellFormed born := by
  have first : Written born (start store branch control versions).store.rows := open_written missing opens
  have written := apply_each_written first fresh
  obtain ⟨version, _, shown⟩ := bind_eq_ok.mp loaded
  exact written.sound.well_formed shown

-- The first batch is refused, the second one adds two folders.
theorem loaded_tree_well_formed_newcomer :
    ∃ tree : Tree ℚ, (newcomer.applyEach [(1, [.renameNode "x" "A"]),
      (2, [.addFolder "root" "A" none, .addFolder "root" "B" (some 0)])]).store.load = .ok tree ∧
      tree.WellFormed 0 := by
  have fresh : FreshRun newcomer [(1, [.renameNode "x" "A"]),
      (2, [.addFolder "root" "A" none, .addFolder "root" "B" (some 0)])] := by
    have absent : ∀ id ∈ newIds (newcomer.apply 1 [.renameNode "x" "A"]).2.store.ids 2
        [.addFolder "root" "A" none, .addFolder "root" "B" (some 0)],
        ((newcomer.apply 1 [.renameNode "x" "A"]).2.store.rows.get? id).isNone = true := by
      decide +kernel
    refine ⟨newcomer_fresh 1 _ (by decide) (by decide), ⟨by decide +kernel, ?_⟩, trivial⟩
    intro id member
    exact Option.isNone_iff_eq_none.mp (absent id member)
  obtain ⟨first, p, loadedFirst, _⟩ := newcomer_accepts [.addFolder "root" "A" none] (by decide +kernel)
  obtain ⟨tree, loaded⟩ := load_of_apply_each loadedFirst [(1, [.renameNode "x" "A"]),
      (2, [.addFolder "root" "A" none, .addFolder "root" "B" (some 0)])]
  exact ⟨tree, loaded, loaded_tree_well_formed (Keyed.get?_empty "state.db") rfl "main" (VersionControl.disabled _) ()
    _ fresh loaded⟩

end Bookmarks.Daemon
