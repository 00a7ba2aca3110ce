import Bookmarks.Proofs.Keyed
import Bookmarks.Proofs.Outcome
import Bookmarks.Store.Basic

/-!
The files next to the database. Writing them leaves the database alone, and the version can be read
afterwards if it could be read before.
-/
set_option autoImplicit false

namespace Bookmarks.Store

variable {ω : Type} {store next : Store ω} {path : String} {content : Content ω}

-- No file that is written next to the database has the database's own name.
structure Apart (path : String) : Prop where
  snapshot : path ≠ snapshotFile
  snapshotDraft : path ≠ temporary snapshotFile
  version : path ≠ sidecar path
  versionDraft : path ≠ temporary (sidecar path)

-- The open database stays what it is, whatever file is written.
structure Keeps (store next : Store ω) : Prop where
  path : next.path = store.path
  database : next.database = store.database
  ids : next.ids = store.ids

theorem Keeps.refl (store : Store ω) : Keeps store store := ⟨rfl, rfl, rfl⟩

theorem Keeps.trans {last : Store ω} (first : Keeps store next) (second : Keeps next last) : Keeps store last :=
  ⟨second.path.trans first.path, second.database.trans first.database, second.ids.trans first.ids⟩

theorem Keeps.rows (keeps : Keeps store next) : next.rows = store.rows := congrArg Database.rows keeps.database

theorem put_file_keeps (store : Store ω) (path : String) (content : Content ω) :
    Keeps store (store.putFile path content) := by
  unfold putFile
  split <;> exact ⟨rfl, rfl, rfl⟩

theorem put_file_current (content : Content ω) (different : path ≠ store.path) :
    (store.putFile path content).isCurrent = store.isCurrent := by
  rw [putFile, if_neg different]

theorem replace_file_keeps (store : Store ω) (path : String) (content : Content ω) :
    Keeps store (store.replaceFile path content).2 := by
  have draft := put_file_keeps store (temporary path) content
  unfold replaceFile
  split
  · exact .refl store
  · split
    · exact draft
    · have moved : Keeps (store.putFile (temporary path) content)
          { store.putFile (temporary path) content with
            files := (store.putFile (temporary path) content).files.erase (temporary path) } := ⟨rfl, rfl, rfl⟩
      exact (draft.trans moved).trans (put_file_keeps _ path content)

theorem replace_file_current (different : path ≠ store.path) (draftDifferent : temporary path ≠ store.path) :
    (store.replaceFile path content).2.isCurrent = store.isCurrent := by
  have draft := put_file_current content draftDifferent
  unfold replaceFile
  split
  · rfl
  · split
    · exact draft
    · have samePath := (put_file_keeps store (temporary path) content).path
      rw [put_file_current]
      · exact draft
      · rw [samePath]
        exact different

theorem record_version_keeps (store : Store ω) (version : String) : Keeps store (store.recordVersion version).2 :=
  replace_file_keeps store _ _

theorem write_snapshot_keeps (store : Store ω) (now : Int) (tree : Tree ω) :
    Keeps store (store.writeSnapshot now tree).2 :=
  replace_file_keeps store _ _

theorem record_version_current (apart : Apart store.path) (version : String) :
    (store.recordVersion version).2.isCurrent = store.isCurrent :=
  replace_file_current apart.version.symm apart.versionDraft.symm

theorem write_snapshot_current (apart : Apart store.path) (now : Int) (tree : Tree ω) :
    (store.writeSnapshot now tree).2.isCurrent = store.isCurrent :=
  replace_file_current apart.snapshot.symm apart.snapshotDraft.symm

theorem file_of_put (store : Store ω) (path : String) (content : Content ω) (other : String) :
    (store.putFile path content).file? other = if path = other then some content else store.file? other := by
  by_cases own : path = store.path
  · subst own
    rw [putFile, if_pos rfl]
    by_cases current : store.isCurrent = true <;> by_cases same : store.path = other <;>
      simp [file?, allFiles, Keyed.get?_insert, current, same]
  · rw [putFile, if_neg own]
    by_cases current : store.isCurrent = true
    · by_cases same : path = other
      · subst same
        simp [file?, allFiles, Keyed.get?_insert, current, Ne.symm own]
      · simp [file?, allFiles, Keyed.get?_insert, current, same]
    · simp [file?, allFiles, Keyed.get?_insert, current]

-- A draft that has been moved to its place leaves no trace.
theorem file_of_draft (store : Store ω) (path : String) (content : Content ω) (other : String) :
    ({ store.putFile path content with files := (store.putFile path content).files.erase path } : Store ω).file? other =
      if path = other then none else store.file? other := by
  by_cases own : path = store.path
  · subst own
    by_cases same : store.path = other
    · simp [putFile, file?, allFiles, Keyed.get?_erase, same]
    · by_cases current : store.isCurrent = true <;>
        simp [putFile, file?, allFiles, Keyed.get?_erase, Keyed.get?_insert, same, current]
  · by_cases same : path = other
    · subst same
      by_cases current : store.isCurrent = true <;>
        simp [putFile, own, file?, allFiles, Keyed.get?_erase, Keyed.get?_insert, current, Ne.symm own]
    · by_cases current : store.isCurrent = true <;>
        simp [putFile, own, file?, allFiles, Keyed.get?_erase, Keyed.get?_insert, current, same]

-- After a file was replaced every file is what it was, what was written, or a draft that is gone.
theorem file_of_replace (store : Store ω) (path : String) (content : Content ω) (other : String) :
    (store.replaceFile path content).2.file? other = store.file? other ∨
      (store.replaceFile path content).2.file? other = some content ∨
      (store.replaceFile path content).2.file? other = none := by
  have drafted := file_of_put store (temporary path) content other
  unfold replaceFile
  split
  · exact Or.inl rfl
  · split
    · by_cases draft : temporary path = other
      · exact Or.inr (Or.inl (by rw [drafted, if_pos draft]))
      · exact Or.inl (by rw [drafted, if_neg draft])
    · simp only
      rw [file_of_put, file_of_draft]
      by_cases here : path = other
      · exact Or.inr (Or.inl (if_pos here))
      · by_cases draft : temporary path = other
        · exact Or.inr (Or.inr (by rw [if_neg here, if_pos draft]))
        · exact Or.inl (by rw [if_neg here, if_neg draft])

-- The version can be read after a file was replaced by one that can be read.
theorem version_of_replace [WrittenOrd ω] {text : String} (readable : content.readText = .ok text) (path : String)
    (before : ∃ version, store.version = .ok version) :
    ∃ version, (store.replaceFile path content).2.version = .ok version := by
  have samePath := (replace_file_keeps store path content).path
  unfold Store.version at before ⊢
  rw [samePath]
  rcases file_of_replace store path content (sidecar store.path) with same | written | gone
  · rw [same]
    exact before
  · rw [written]
    exact ⟨_, bind_of_ok readable _⟩
  · rw [gone]
    exact ⟨uninitialized, rfl⟩

end Bookmarks.Store
