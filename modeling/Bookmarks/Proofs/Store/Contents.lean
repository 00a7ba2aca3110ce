import Bookmarks.Proofs.Order.Binary
import Bookmarks.Proofs.Store.Upkeep
import Bookmarks.Proofs.Tree.Loading

/-!
What is at the path of the database. A file that is equal, byte for byte, to a database is that database
(`eq_of_same_database`), and a store that is opened on it has its rows (`reopen_of_file`).
-/
set_option autoImplicit false

namespace Bookmarks

-- Only an ord that is the same stands at the same place.
class ExactOrd (ω : Type) [SiblingOrd ω] : Prop where
  exact : ∀ a b : ω, (SiblingOrd.order a b).isEq = true → a = b

instance : ExactOrd ℚ where
  exact _ _ same := compare_eq_iff_eq.mp (Ordering.isEq_iff_eq_eq.mp same)

instance : ExactOrd Float where
  exact _ _ same := Decimal.order_key_injective (compare_eq_iff_eq.mp (Ordering.isEq_iff_eq_eq.mp same))

namespace Content

variable {ω : Type} [WrittenOrd ω] [ExactOrd ω]

theorem row_eq_of_same {a b : String × Row ω} (same : sameRow a b = true) : a = b := by
  obtain ⟨id, row⟩ := a
  obtain ⟨otherId, other⟩ := b
  cases row
  cases other
  simp only [sameRow, Bool.and_eq_true, beq_iff_eq] at same
  obtain ⟨⟨⟨⟨⟨⟨⟨ids, kinds⟩, titles⟩, urls⟩, parents⟩, ords⟩, created⟩, updated⟩ := same
  rw [ids, kinds, titles, urls, parents, ExactOrd.exact _ _ ords, created, updated]

theorem rows_eq_of_same {a b : List (String × Row ω)} (lengths : a.length = b.length)
    (same : (a.zip b).all (fun (x, y) => sameRow x y) = true) : a = b := by
  induction a generalizing b with
  | nil => exact (List.length_eq_zero_iff.mp lengths.symm).symm
  | cons head rest ih =>
      cases b with
      | nil => cases lengths
      | cons other more =>
          rw [List.zip_cons_cons, List.all_cons, Bool.and_eq_true] at same
          rw [row_eq_of_same same.1, ih (Nat.succ.inj lengths) same.2]

theorem eq_of_same_database {database : Database ω} {content : Content ω}
    (same : (Content.database database == content) = true) : content = .database database := by
  cases content with
  | database other =>
      have equal : sameDatabase database other = true := same
      simp only [sameDatabase, Bool.and_eq_true, beq_iff_eq] at equal
      obtain ⟨⟨writes, lengths⟩, entries⟩ := equal
      obtain ⟨⟨rows, ascending⟩, count⟩ := database
      obtain ⟨⟨others, _⟩, _⟩ := other
      have equalRows : rows = others := rows_eq_of_same lengths entries
      subst equalRows
      cases writes
      rfl
  | directory => cases same
  | text text => cases same
  | snapshot tree generatedAt => cases same

end Content

namespace Rows

variable {ω : Type} [SiblingOrd ω] {rows : Rows ω}

theorem with_root_legible (legible : Legible rows) (now : Int) : Legible (rows.withRoot now) := by
  unfold withRoot
  split
  · exact legible
  · exact insert_legible legible rootId (Kind.ofName?_name .folder)

omit [SiblingOrd ω] in
theorem empty_legible : Legible (∅ : Rows ω) := by
  intro id row stored
  cases stored

end Rows

namespace Store

variable {ω : Type} [WrittenOrd ω] {store opened : Store ω} {now : Int}

omit [WrittenOrd ω] in
theorem file_at_path (current : store.isCurrent = true) : store.file? store.path = some (.database store.database) := by
  simp [file?, allFiles, current, Keyed.get?_insert]

theorem initialized_of_rooted {database : Database ω} (rooted : database.rows.contains rootId = true) (now : Int) :
    initialized database now = database := by
  rw [initialized, if_pos rooted]

theorem initialized_rooted (database : Database ω) (now : Int) :
    (initialized database now).rows.contains rootId = true := by
  unfold initialized
  by_cases rooted : database.rows.contains rootId = true
  · rw [if_pos rooted]
    exact rooted
  · rw [if_neg rooted, Rows.withRoot, if_neg rooted]
    simp [Keyed.contains, Keyed.get?_insert]

theorem reopen_of_file {database : Database ω} (there : store.file? store.path = some (.database database))
    (rooted : database.rows.contains rootId = true) (now : Int) :
    store.reopen now = (.ok (), { store with database, isCurrent := true, files := store.allFiles }) := by
  have found : store.allFiles.get? store.path = some (.database database) := there
  simp only [reopen, openAt, found, Content.asDatabase]
  rw [bind_of_ok rfl, initialized_of_rooted rooted]
  rfl

theorem reopen_ok (done : store.reopen now = (.ok (), opened)) : ∃ database, opened =
    { store with database := initialized database now, isCurrent := true, files := store.allFiles } := by
  unfold reopen at done
  split at done
  · rename_i fresh opens
    cases done
    unfold openAt at opens
    cases there : store.allFiles.get? store.path with
    | none =>
        simp only [there] at opens
        cases opens
        exact ⟨_, rfl⟩
    | some content =>
        simp only [there] at opens
        obtain ⟨database, _, result⟩ := bind_eq_ok.mp opens
        cases result
        exact ⟨database, rfl⟩
  · cases done

-- A store that was opened again is rooted, and at the same place.
theorem reopen_rooted (done : store.reopen now = (.ok (), opened)) :
    opened.path = store.path ∧ opened.isCurrent = true ∧ opened.rows.contains rootId = true := by
  obtain ⟨database, rfl⟩ := reopen_ok done
  exact ⟨rfl, rfl, initialized_rooted database now⟩

theorem file_of_reopen (done : store.reopen now = (.ok (), opened)) {other : String} (different : store.path ≠ other) :
    opened.file? other = store.file? other := by
  obtain ⟨database, rfl⟩ := reopen_ok done
  show (Keyed.insert store.allFiles store.path _).get? other = _
  rw [Keyed.get?_insert, if_neg different]
  rfl

theorem reopen_error {failure : StoreError} (failed : store.reopen now = (.error failure, opened)) :
    opened = store := by
  unfold reopen at failed
  split at failed
  · cases failed
  · cases failed
    rfl

end Store

end Bookmarks
