import Bookmarks.Proofs.Store.Statements
import Bookmarks.Proofs.Tree.Loading
import Bookmarks.Store.Basic

/-!
A store that could be loaded can be loaded after any batch that it took (`load_of_commit`): what has an unknown kind
afterwards had it before (`Steps.unknown_kept`), and the version is read from where it was.
-/
set_option autoImplicit false

namespace Bookmarks

namespace Rows

variable {ω : Type} {rows after : Rows ω} {id : String} {row : Row ω}

theorem legible_iff : Legible rows ↔ ∀ id row, rows.get? id = some row → Kind.ofName? row.kind ≠ none := by
  constructor
  · intro legible id row stored unknown
    obtain ⟨kind, known⟩ := legible id row stored
    rw [unknown] at known
    cases known
  · intro known id row stored
    exact Option.ne_none_iff_exists'.mp (known id row stored)

-- A row of unknown kind was there before, and was of that kind.
theorem Step.unknown_kept (step : Step rows after) (stored : after.get? id = some row)
    (unknown : Kind.ofName? row.kind = none) : ∃ old, rows.get? id = some old ∧ old.kind = row.kind := by
  cases step with
  | add source kind added isKind below =>
      rw [Keyed.get?_insert] at stored
      split at stored
      · cases stored
        rw [isKind, Kind.ofName?_name] at unknown
        cases unknown
      · exact ⟨row, stored, rfl⟩
  | move moved old placed found child kind below =>
      rw [Keyed.get?_insert] at stored
      split at stored
      · rename_i same
        cases stored
        exact ⟨old, same ▸ found, kind.symm⟩
      · exact ⟨row, stored, rfl⟩
  | change changed change kind parentId =>
      rw [Keyed.get?_modify] at stored
      split at stored
      · rename_i same
        obtain ⟨old, found, rfl⟩ := Option.map_eq_some_iff.mp stored
        exact ⟨old, same ▸ found, (kind old).symm⟩
      · exact ⟨row, stored, rfl⟩
  | remove removed child =>
      obtain ⟨gone, kept⟩ := get?_removeAll rows [removed] id
      by_cases doomed : Doomed rows [removed] id
      · rw [gone doomed] at stored
        cases stored
      · rw [kept doomed] at stored
        exact ⟨row, stored, rfl⟩

theorem Steps.unknown_kept (steps : Steps rows after) (stored : after.get? id = some row)
    (unknown : Kind.ofName? row.kind = none) : ∃ old, rows.get? id = some old ∧ old.kind = row.kind := by
  induction steps generalizing row with
  | refl => exact ⟨row, stored, rfl⟩
  | tail _ step ih =>
      obtain ⟨between, found, same⟩ := step.unknown_kept stored unknown
      obtain ⟨old, foundOld, sameOld⟩ := ih found (same ▸ unknown)
      exact ⟨old, foundOld, sameOld.trans same⟩

theorem Steps.legible (legible : Legible rows) (steps : Steps rows after) : Legible after := by
  rw [legible_iff] at legible ⊢
  intro id row stored unknown
  obtain ⟨old, found, same⟩ := steps.unknown_kept stored unknown
  exact legible id old found (same ▸ unknown)

end Rows

theorem Operation.idle_of_not_writes {operation : Operation} (idle : operation.writes = false) :
    ∃ id, operation = .updateBookmark id none none := by
  unfold writes at idle
  split at idle
  · exact ⟨_, rfl⟩
  · cases idle

-- A batch that is taken although nothing can be written has nothing to write.
theorem Rows.apply_all_of_not_refused {ω : Type} [SiblingOrd ω] {rows : Rows ω} {now : Int} {batch : List Operation}
    (taken : rows.refusal? now batch = none) (ids : IdSource) :
    (Transaction.mk rows ids).applyAll now batch = .ok ⟨rows, ids⟩ := by
  induction batch with
  | nil => rfl
  | cons operation rest ih =>
      unfold refusal? at taken
      split at taken
      · cases taken
      · split at taken
        · cases taken
        · cases taken
        · cases taken
        · rename_i done applied
          split at taken
          · cases taken
          · rename_i idle
            obtain ⟨id, rfl⟩ := Operation.idle_of_not_writes (Bool.eq_false_iff.mpr idle)
            have bookmark : rows.isBookmark id = true := by
              by_contra absent
              rw [Transaction.update_bookmark_missing (Bool.eq_false_iff.mpr absent)] at applied
              cases applied
            have same : (Transaction.mk rows ids).apply now (.updateBookmark id none none) = .ok ⟨rows, ids⟩ := by
              simp [Transaction.apply, bookmark]
            exact (bind_of_ok same _).trans (ih taken)

namespace Store

variable {ω : Type} [WrittenOrd ω] {store next : Store ω} {now : Int} {batch : List Operation}

-- A version that can be read is not read from the database.
theorem version_of_database {version : String} (read : store.version = .ok version) (database : Database ω)
    (ids : IdSource) : ({ store with database, ids } : Store ω).version = .ok version := by
  by_cases same : store.isCurrent = true ∧ store.path = sidecar store.path
  · obtain ⟨current, own⟩ := same
    have file : store.file? (sidecar store.path) = some (.database store.database) := by
      rw [← own]
      simp [file?, allFiles, current, Keyed.get?_insert]
    simp only [Store.version, file] at read
    cases read
  · rw [← read]
    have file : ({ store with database, ids } : Store ω).file? (sidecar store.path) =
        store.file? (sidecar store.path) := by
      by_cases current : store.isCurrent = true
      · have different : store.path ≠ sidecar store.path := fun own => same ⟨current, own⟩
        simp [file?, allFiles, current, Keyed.get?_insert, different]
      · simp [file?, allFiles, current]
    simp only [Store.version, file]

theorem commit_ok (done : store.commit now batch = (.ok (), next)) :
    (store.isCurrent = true ∧ ∃ t writes, (Transaction.mk store.rows store.ids).applyAll now batch = .ok t ∧
      next = { store with database := ⟨t.rows, writes⟩, ids := t.ids }) ∨
    (store.isCurrent = false ∧ next = store) := by
  unfold commit at done
  split at done
  · rename_i current
    split at done
    · cases done
    · rename_i t stored
      exact Or.inl ⟨current, t, _, stored, (congrArg Prod.snd done).symm⟩
  · rename_i replaced
    split at done
    · cases done
    · exact Or.inr ⟨Bool.eq_false_iff.mpr replaced, (congrArg Prod.snd done).symm⟩

-- What was committed went through as a whole.
theorem apply_all_of_commit (done : store.commit now batch = (.ok (), next)) :
    (Transaction.mk store.rows store.ids).applyAll now batch = .ok ⟨next.rows, next.ids⟩ := by
  unfold commit at done
  split at done
  · split at done
    · cases done
    · rename_i stored
      cases done
      exact stored
  · split at done
    · cases done
    · rename_i taken
      cases done
      exact Rows.apply_all_of_not_refused taken _

theorem commit_place (store : Store ω) (now : Int) (batch : List Operation) :
    (store.commit now batch).2.path = store.path ∧ (store.commit now batch).2.isCurrent = store.isCurrent := by
  unfold commit
  split
  · split <;> exact ⟨rfl, rfl⟩
  · split <;> exact ⟨rfl, rfl⟩

theorem load_of_commit {before : Tree ω} (loaded : store.load = .ok before)
    (done : store.commit now batch = (.ok (), next)) : ∃ after, next.load = .ok after := by
  obtain ⟨version, read, shown⟩ := bind_eq_ok.mp loaded
  rcases commit_ok done with ⟨_, t, writes, stored, rfl⟩ | ⟨_, rfl⟩
  · have legible := Rows.Steps.legible (Rows.legible_of_tree shown) (Transaction.apply_all_steps stored)
    obtain ⟨after, reloaded, _⟩ := Rows.tree_ok legible version
    exact ⟨after, (bind_of_ok (version_of_database read _ _) _).trans reloaded⟩
  · exact ⟨before, loaded⟩

theorem commit_error {failure : StoreError} (failed : store.commit now batch = (.error failure, next)) :
    next = store := by
  unfold commit at failed
  split at failed
  · split at failed
    · exact (congrArg Prod.snd failed).symm
    · cases failed
  · split at failed
    · exact (congrArg Prod.snd failed).symm
    · cases failed

end Store

end Bookmarks
