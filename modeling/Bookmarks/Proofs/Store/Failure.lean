import Bookmarks.Proofs.Order.Exact
import Bookmarks.Proofs.Store.Contents
import Bookmarks.Proofs.Store.Reload

/-!
What an error of a store says about its rows. A batch that fails before it is committed changes nothing. One that
was committed is an error, too, where the tree cannot be loaded afterwards; then it could not be loaded before
either (`Unloadable`).
-/
set_option autoImplicit false

namespace Bookmarks

namespace Store

variable {ω : Type} [WrittenOrd ω] {store next : Store ω} {now : Int} {batch : List Operation}

-- What keeps the tree from being loaded both before and after a batch: a version that cannot be read, or a row
-- of unknown kind that stays.
def Unloadable (store after : Store ω) : Prop :=
  (∃ failure, store.version = .error failure) ∨
    ∃ id row kept, store.rows.get? id = some row ∧ after.rows.get? id = some kept ∧ row.kind = kept.kind ∧
      Kind.ofName? kept.kind = none

theorem load_ok_iff :
    (∃ tree, store.load = .ok tree) ↔ (∃ version, store.version = .ok version) ∧ Rows.Legible store.rows := by
  constructor
  · rintro ⟨tree, loaded⟩
    obtain ⟨version, read, shown⟩ := bind_eq_ok.mp loaded
    exact ⟨⟨version, read⟩, Rows.legible_of_tree shown⟩
  · rintro ⟨⟨version, read⟩, legible⟩
    obtain ⟨tree, shown, _⟩ := Rows.tree_ok legible version
    exact ⟨tree, (bind_of_ok read _).trans shown⟩

theorem version_ok_of_commit (done : store.commit now batch = (.ok (), next)) :
    (∃ version, next.version = .ok version) ↔ ∃ version, store.version = .ok version := by
  rcases commit_ok done with ⟨_, t, writes, _, rfl⟩ | ⟨_, rfl⟩
  · constructor
    · rintro ⟨version, read⟩
      exact ⟨version, version_of_database read store.database store.ids⟩
    · rintro ⟨version, read⟩
      exact ⟨version, version_of_database read _ _⟩
  · exact Iff.rfl

theorem load_fails_iff_of_commit (done : store.commit now batch = (.ok (), next)) :
    (∃ failure, next.load = .error failure) ↔ Unloadable store next := by
  have steps := Transaction.apply_all_steps (apply_all_of_commit done)
  have fails : (∃ failure, next.load = .error failure) ↔ ¬ ∃ tree, next.load = .ok tree := by
    cases next.load <;> simp
  have unread : (∃ failure, store.version = .error failure) ↔ ¬ ∃ version, store.version = .ok version := by
    cases store.version <;> simp
  rw [fails, load_ok_iff, version_ok_of_commit done, Rows.legible_iff]
  constructor
  · intro fails
    by_cases read : ∃ version, store.version = .ok version
    · have illegible : ¬ ∀ id row, next.rows.get? id = some row → Kind.ofName? row.kind ≠ none :=
        fun known => fails ⟨read, known⟩
      push Not at illegible
      obtain ⟨id, kept, stored, unknown⟩ := illegible
      obtain ⟨row, found, same⟩ := Rows.Steps.unknown_kept steps stored unknown
      exact Or.inr ⟨id, row, kept, found, stored, same, unknown⟩
    · exact Or.inl (unread.mpr read)
  · rintro (failed | ⟨id, row, kept, _, stored, _, unknown⟩) ⟨read, known⟩
    · exact unread.mp failed read
    · exact known id kept stored unknown

/-- A batch that fails before it is committed leaves the store as it was. One that was committed has been applied as a
whole, and is reported as an error exactly if the tree could not be loaded before and still cannot. So where the
tree could be loaded, an error is reported only for a batch that was not applied. -/
theorem reported_iff_unloadable (store : Store ω) (now : Int) (batch : List Operation) :
    (∀ failure, (store.commit now batch).1 = .error failure → store.apply now batch = (.error failure, store)) ∧
    ((store.commit now batch).1 = .ok () →
      (Transaction.mk store.rows store.ids).applyAll now batch =
        .ok ⟨(store.apply now batch).2.rows, (store.apply now batch).2.ids⟩ ∧
      ((∃ failure, (store.apply now batch).1 = .error failure) ↔ Unloadable store (store.apply now batch).2)) ∧
    ∀ tree, store.load = .ok tree → ∀ failure, (store.apply now batch).1 = .error failure →
      (store.apply now batch).2 = store := by
  cases answer : store.commit now batch with
  | mk outcome next =>
      cases outcome with
      | error failure =>
          have unchanged := commit_error answer
          subst unchanged
          have applied : next.apply now batch = (.error failure, next) := by rw [apply, answer]
          refine ⟨?early, ?late, ?loaded⟩
          case early =>
            rintro _ ⟨⟩
            exact applied
          case late => exact nofun
          case loaded => exact fun _ _ _ _ => congrArg Prod.snd applied
      | ok _ =>
          have applied : store.apply now batch = (next.load, next) := by rw [apply, answer]
          rw [applied]
          refine ⟨?early, ?late, ?loaded⟩
          case early => exact nofun
          case late => exact fun _ => ⟨apply_all_of_commit answer, load_fails_iff_of_commit answer⟩
          case loaded =>
            intro tree loaded failure failed
            obtain ⟨after, reloaded⟩ := load_of_commit loaded answer
            rw [show next.load = .error failure from failed] at reloaded
            cases reloaded

-- A folder below the root, and a directory in the place of the version if something is in the way.
def loneFolder (obstructed : Bool) : Store ℚ :=
  { path := "state.db"
    database := ⟨(Rows.withRoot ∅ 0).insert "x1" ⟨Kind.folder.name, "A", none, some rootId, 1, 0, 0⟩, 1⟩
    isCurrent := true
    files := if obstructed then Keyed.insert ∅ "state.version" .directory else ∅
    ids := {} }

theorem lone_folder_loads : ∃ tree, (loneFolder false).load = .ok tree := by
  have legible : Rows.Legible (loneFolder false).rows :=
    Rows.insert_legible (Rows.with_root_legible Rows.empty_legible 0) "x1" (Kind.ofName?_name .folder)
  exact load_ok_iff.mpr ⟨⟨_, rfl⟩, legible⟩

-- A batch that fails in its second operation, one that is reported although it was applied, and one that fails
-- where the tree can be loaded.
theorem reported_iff_unloadable_folder :
    (loneFolder true).apply 1 [.renameNode "x1" "B", .renameNode "x2" "C"] =
      (.error (.noRows "rename_node" "x2"), loneFolder true) ∧
    Unloadable (loneFolder true) ((loneFolder true).apply 1 [.renameNode "x1" "B"]).2 ∧
    ((loneFolder false).apply 1 [.renameNode "x1" "B", .renameNode "x2" "C"]).2 = loneFolder false := by
  refine ⟨?early, ?late, ?loaded⟩
  case early =>
    have fails : ((loneFolder true).commit 1 [.renameNode "x1" "B", .renameNode "x2" "C"]).1 =
        .error (.noRows "rename_node" "x2") := rfl
    exact (reported_iff_unloadable (loneFolder true) 1 _).1 _ fails
  case late =>
    have commits : ((loneFolder true).commit 1 [.renameNode "x1" "B"]).1 = .ok () := rfl
    have fails : ((loneFolder true).apply 1 [.renameNode "x1" "B"]).1.isOk = false := rfl
    exact ((reported_iff_unloadable (loneFolder true) 1 _).2.1 commits).2.mp (error_of_not_ok fails)
  case loaded =>
    obtain ⟨tree, loaded⟩ := lone_folder_loads
    have fails : ((loneFolder false).apply 1 [.renameNode "x1" "B", .renameNode "x2" "C"]).1 =
        .error (.noRows "rename_node" "x2") := rfl
    exact (reported_iff_unloadable (loneFolder false) 1 _).2.2 tree loaded _ fails

-- The answer is an error, and the folder is gone.
theorem reported_batch_applied :
    ¬ ∀ (store : Store ℚ) (now : Int) (batch : List Operation) (failure : StoreError),
      (store.apply now batch).1 = .error failure → (store.apply now batch).2.rows = store.rows := by
  intro kept
  have fails : ((loneFolder true).apply 1 [.deleteNode "x1" true]).1 = .error .isDirectory := rfl
  have removed : ((loneFolder true).apply 1 [.deleteNode "x1" true]).2.rows =
      (loneFolder true).rows.removeAll ["x1"] := rfl
  have same := kept _ _ _ _ fails
  rw [removed] at same
  have gone := (Rows.get?_removeAll (loneFolder true).rows ["x1"] "x1").1 (Rows.doomed_one_iff.mpr ⟨rfl, .refl⟩)
  rw [same] at gone
  cases gone

end Store

end Bookmarks
