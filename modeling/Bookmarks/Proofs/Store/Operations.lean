import Bookmarks.Proofs.Outcome
import Bookmarks.Proofs.Rows.Sound
import Bookmarks.Store.Operations

/-!
What the operations do to the rows when the rows they name are there, and that they fail when not.
-/
set_option autoImplicit false

namespace Bookmarks

section

variable {ω : Type} [SiblingOrd ω] {rows : Rows ω} {t : Transaction ω} {now : Int} {id : String}

omit [SiblingOrd ω] in
theorem Rows.update_ok {isThere : Bool} (there : isThere = true) (operation : Operation) (id : String)
    (change : Row ω → Row ω) : rows.update isThere operation id change = .ok (rows.modify id change) := by
  rw [update, if_pos there]

omit [SiblingOrd ω] in
theorem Rows.update_missing {isThere : Bool} (absent : isThere = false) (operation : Operation) (id : String)
    (change : Row ω → Row ω) :
    rows.update isThere operation id change = .error (.noRows operation.name id) := by
  simp [update, absent]

-- Without anything to change it counts only whether the bookmark is there.
theorem Transaction.update_bookmark_ok (now : Int) (bookmark : t.rows.isBookmark id = true)
    (title url : Option String) :
    ∃ change : Row ω → Row ω, (∀ old, Rows.Retains old (change old)) ∧
      (∀ old, (change old).url = url.or old.url) ∧
      t.apply now (.updateBookmark id title url) = .ok { t with rows := t.rows.modify id change } := by
  by_cases idle : title = none ∧ url = none
  · obtain ⟨rfl, rfl⟩ := idle
    refine ⟨fun old => old, fun _ => ⟨rfl, rfl, rfl⟩, fun _ => rfl, ?_⟩
    have same : Keyed.modify t.rows id (fun old => old) = t.rows := by
      apply Keyed.ext_get?
      intro other
      rw [Keyed.get?_modify]
      by_cases here : id = other
      · subst here
        simp
      · simp [here]
    rw [same]
    simp [apply, bookmark]
  · refine ⟨fun old => { old with title := title.getD old.title, url := url.or old.url, updatedAt := now },
      fun _ => ⟨rfl, rfl, rfl⟩, fun _ => rfl, ?_⟩
    rw [apply]
    · exact bind_of_ok (Rows.update_ok bookmark _ _ _) _
    · exact fun noTitle noUrl => idle ⟨noTitle, noUrl⟩

theorem Transaction.update_bookmark_missing (absent : t.rows.isBookmark id = false) (title url : Option String) :
    t.apply now (.updateBookmark id title url) = .error (.noRows "update_bookmark" id) := by
  by_cases idle : title = none ∧ url = none
  · obtain ⟨rfl, rfl⟩ := idle
    simp [apply, absent, Operation.name]
  · rw [apply]
    · exact bind_of_error (Rows.update_missing absent _ _ _) _
    · exact fun noTitle noUrl => idle ⟨noTitle, noUrl⟩

end

namespace Rows

variable {ω : Type} [LinearOrder ω] [SiblingOrd ω] [AscendingOrd ω] {rows : Rows ω} {id parent : String} {row : Row ω}

-- The row is stored as it is.
theorem put_exact (rows : Rows ω) (id : String) (row : Row ω) :
    rows.put id row = if row.parentId.all (Keyed.contains (rows.insert id row)) then .ok (rows.insert id row)
      else .error (.database .missingParent) := by
  rw [put, AscendingOrd.stored_eq]

theorem put_ok (below : row.parentId = some parent) (present : rows.contains parent = true) :
    rows.put id row = .ok (rows.insert id row) := by
  have stays : Keyed.contains (rows.insert id row) parent = true := by
    rw [Keyed.contains, Keyed.get?_insert]
    by_cases same : id = parent
    · simp [same]
    · rw [if_neg same]
      exact present
  rw [put_exact, if_pos (by simp [below, stays])]

theorem put_missing (below : row.parentId = some parent) (missing : rows.get? parent = none)
    (different : parent ≠ id) : rows.put id row = .error (.database .missingParent) := by
  have absent : Keyed.contains (rows.insert id row) parent = false := by
    rw [Keyed.contains, Keyed.get?_insert, if_neg different.symm, missing]
    rfl
  rw [put_exact, if_neg (by simp [below, absent])]

end Rows

namespace Transaction

variable {ω : Type} [LinearOrder ω] [SiblingOrd ω] [RoomyOrd ω] {t : Transaction ω} {now : Int}
  {id parent title : String} {url : Option String} {kind : Kind} {index : Option Int} {ord : ω}

-- The id that the next row gets.
def nextId (t : Transaction ω) (now : Int) : String := (t.ids.advance now).text

-- The row of a node that is added.
def newRow (now : Int) (parent : String) (kind : Kind) (title : String) (url : Option String) (ord : ω) : Row ω :=
  ⟨kind.name, title, url, some parent, ord, now, now⟩

theorem insert_new_ok (present : t.rows.contains parent = true) :
    t.insertNew now parent kind title url ord =
      .ok (t.nextId now, ⟨t.rows.insert (t.nextId now) (newRow now parent kind title url ord), t.ids.advance now⟩) := by
  unfold insertNew
  exact bind_of_ok (Rows.put_ok rfl present) _

theorem insert_new_missing (missing : t.rows.get? parent = none) (different : parent ≠ t.nextId now) :
    t.insertNew now parent kind title url ord = .error (.database .missingParent) := by
  unfold insertNew
  exact bind_of_error (Rows.put_missing rfl missing different) _

theorem add_ok (kind : Kind) (title : String) (url : Option String) (index : Option Int)
    (present : t.rows.contains parent = true) (fresh : t.rows.get? (t.nextId now) = none) :
    ∃ ord after, Rows.Allocated t.rows parent index (some (t.nextId now)) ord after ∧
      t.add now parent kind title url index = .ok (t.nextId now,
        ⟨after.insert (t.nextId now) (newRow now parent kind title url ord), t.ids.advance now⟩) := by
  obtain ⟨ord, after, found, allocated⟩ := Rows.allocate_ok t.rows parent index none
  refine ⟨ord, after, allocated.of_absent fresh, ?_⟩
  obtain ⟨row, stored⟩ := Keyed.contains_iff.mp present
  have stays : after.contains parent = true := by
    obtain ⟨ordOf, rfl⟩ := allocated.reordered
    simp [Keyed.contains, Rows.get?_reord, stored]
  unfold add
  rw [bind_of_ok found]
  exact insert_new_ok (t := ⟨after, t.ids⟩) stays

theorem add_missing (missing : t.rows.get? parent = none) (different : parent ≠ t.nextId now) :
    t.add now parent kind title url index = .error (.database .missingParent) := by
  obtain ⟨ord, after, found, allocated⟩ := Rows.allocate_ok t.rows parent index none
  unfold add
  rw [bind_of_ok found]
  exact insert_new_missing (t := ⟨after, t.ids⟩) (allocated.get?_eq_none missing) different

theorem move_ok {row : Row ω} {above : String} (now : Int) (operation : Operation) (index : Option Int)
    (stored : t.rows.get? id = some row)
    (below : row.parentId = some above) (present : t.rows.contains parent = true) :
    ∃ ord after, Rows.Allocated t.rows parent index (some id) ord after ∧
      move t.rows now operation id parent index =
        .ok (after.insert id { row with parentId := some parent, ord, updatedAt := now }) := by
  obtain ⟨ord, after, found, allocated⟩ := Rows.allocate_ok t.rows parent index (some id)
  refine ⟨ord, after, allocated, ?_⟩
  obtain ⟨upper, upperStored⟩ := Keyed.contains_iff.mp present
  have stays : after.get? id = some row ∧ after.contains parent = true := by
    obtain ⟨ordOf, rfl⟩ := allocated.reordered
    simp [Keyed.contains, Rows.get?_reord, stored, upperStored]
  unfold move
  rw [bind_of_ok found]
  simp only [stays.1, below, Option.isSome_some, if_true]
  exact Rows.put_ok rfl stays.2

theorem move_missing {operation : Operation} (missing : t.rows.get? id = none) :
    move t.rows now operation id parent index = .error (.noRows operation.name id) := by
  obtain ⟨ord, after, found, allocated⟩ := Rows.allocate_ok t.rows parent index (some id)
  unfold move
  rw [bind_of_ok found]
  simp only [allocated.get?_eq_none missing]

theorem move_missing_parent {row : Row ω} (now : Int) (operation : Operation) (index : Option Int)
    (stored : t.rows.get? id = some row)
    (missing : t.rows.get? parent = none) :
    ∃ failure, move t.rows now operation id parent index = .error failure := by
  obtain ⟨ord, after, found, allocated⟩ := Rows.allocate_ok t.rows parent index (some id)
  have absent := allocated.get?_eq_none missing
  have stays : after.get? id = some row := by
    obtain ⟨ordOf, rfl⟩ := allocated.reordered
    simp [Rows.get?_reord, stored]
  have different : parent ≠ id := by
    rintro rfl
    rw [missing] at stored
    cases stored
  unfold move
  rw [bind_of_ok found]
  cases below : row.parentId with
  | none => exact ⟨.noRows operation.name id, by simp [stays, below]⟩
  | some above =>
      refine ⟨.database .missingParent, ?_⟩
      simp only [stays, below, Option.isSome_some, if_true]
      exact Rows.put_missing rfl absent different

end Transaction

end Bookmarks
