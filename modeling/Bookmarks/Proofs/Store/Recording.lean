import Bookmarks.Proofs.Store.Sidecar
import Bookmarks.Proofs.Store.Contents

/-!
Where a version is recorded, and what that does to the database. The name of the file for the version is made from
the name of the database by another extension, and is the same name where that is the extension already
(`sidecar_eq_iff`); the draft never has it. Any other database is as before, and so is what a store finds when it
opens it again (`recorded_spares`).
-/
set_option autoImplicit false

namespace Bookmarks

namespace Path

theorem parent_file_name (path : String) : parent path ++ fileName path = path := by
  have whole : path.toList.reverse.takeWhile (· != '/') ++ path.toList.reverse.dropWhile (· != '/') = path.toList.reverse :=
    List.takeWhile_append_dropWhile
  rw [← String.toList_inj, String.toList_append, parent, fileName, String.toList_ofList, String.toList_ofList,
    ← List.reverse_append, whole, List.reverse_reverse]

theorem stem_of_extension {base : String} (extension : String) (something : base ≠ "")
    (plain : '.' ∉ extension.toList) :
    stem (base ++ ("." ++ extension)) = base := by
  have backwards : (base ++ ("." ++ extension)).toList.reverse =
      extension.toList.reverse ++ '.' :: base.toList.reverse := by
    simp [String.toList_append]
  have inside : ∀ c ∈ extension.toList.reverse, (c != '.') = true := by
    intro c member
    refine bne_iff_ne.mpr fun point => plain ?_
    exact point ▸ List.mem_reverse.mp member
  have before : ((base ++ ("." ++ extension)).toList.reverse.dropWhile (· != '.')).drop 1 = base.toList.reverse := by
    rw [backwards, List.dropWhile_append_of_pos inside, List.dropWhile_cons_of_neg (by decide), List.drop_one,
      List.tail_cons]
  have nonempty : base.toList.reverse ≠ [] :=
    fun empty => something (String.toList_eq_nil_iff.mp (List.reverse_eq_nil_iff.mp empty))
  rw [stem, before]
  simp only [List.isEmpty_iff, if_neg nonempty, List.reverse_reverse, String.ofList_toList]

theorem stem_eq_empty_iff {name : String} : stem name = "" ↔ name = "" := by
  unfold stem
  simp only
  split
  · rfl
  · rename_i something
    constructor
    · intro empty
      have none := congrArg String.toList empty
      rw [String.toList_ofList] at none
      exact absurd (by simpa using none) something
    · rintro rfl
      rfl

end Path

namespace Store

theorem sidecar_parts (path : String) :
    sidecar path = Path.parent path ++ (Path.stem (Path.fileName path) ++ ".version") := by
  rw [sidecar, Path.withExtension, String.append_assoc, String.append_assoc]
  rfl

-- The name of the database ends in the extension, and does not begin with it.
theorem sidecar_eq_iff (path : String) :
    sidecar path = path ↔ ∃ base, base ≠ "" ∧ Path.fileName path = base ++ ".version" := by
  have names : sidecar path = path ↔ Path.stem (Path.fileName path) ++ ".version" = Path.fileName path := by
    nth_rewrite 2 [← Path.parent_file_name path]
    rw [sidecar_parts, String.append_right_inj]
  rw [names]
  constructor
  · intro same
    refine ⟨Path.stem (Path.fileName path), ?_, same.symm⟩
    intro empty
    rw [empty, Path.stem_eq_empty_iff.mp empty] at same
    exact absurd same (by decide)
  · rintro ⟨base, something, named⟩
    rw [named]
    exact congrArg (· ++ ".version") (Path.stem_of_extension "version" something (by decide))

-- A name that ended in the extension of the draft would have the extension of the version in its stem.
theorem sidecar_draft_ne (path : String) : temporary (sidecar path) ≠ path := by
  intro same
  have names : Path.stem (Path.fileName path) ++ ".version" ++ ".tmp" = Path.fileName path := by
    nth_rewrite 2 [← Path.parent_file_name path] at same
    rwa [temporary, sidecar_parts, String.append_assoc, String.append_right_inj] at same
  have something : Path.stem (Path.fileName path) ++ ".version" ≠ "" := by
    intro empty
    exact absurd (String.append_eq_empty_iff.mp empty).2 (by decide)
  have longer : Path.stem (Path.fileName path) ++ ".version" = Path.stem (Path.fileName path) := by
    rw [← Path.stem_of_extension "tmp" something (by decide)]
    exact congrArg Path.stem names
  have lengths := congrArg String.length longer
  rw [String.length_append] at lengths
  have extension : ".version".length = 8 := rfl
  omega

variable {ω : Type} {store next : Store ω} {files : Files ω} {now : Int}

-- Nothing is in the way of a version that is recorded.
def Clear (store : Store ω) : Prop :=
  store.isDirectory (temporary (sidecar store.path)) = false ∧ store.isDirectory (sidecar store.path) = false

theorem recorded_iff (store : Store ω) (version : String) :
    (store.recordVersion version).1 = .ok () ↔ Clear store := by
  constructor
  · intro done
    unfold recordVersion replaceFile at done
    split at done
    · cases done
    · rename_i draft
      split at done
      · cases done
      · rename_i target
        exact ⟨Bool.eq_false_iff.mpr draft, Bool.eq_false_iff.mpr target⟩
  · rintro ⟨draft, target⟩
    exact replace_file_ok _ draft target

-- The file for the version is another one than the database unless they have one name.
theorem database_of_recorded (version : String) (spared : sidecar store.path ≠ store.path ∨ ¬ Clear store) :
    (store.recordVersion version).2.file? store.path = store.file? store.path := by
  have draft := sidecar_draft_ne store.path
  rcases spared with apart | blocked
  · exact file_of_replace_other _ apart draft
  · cases outcome : (store.recordVersion version).1 with
    | ok done => exact absurd ((recorded_iff store version).mp outcome) blocked
    | error failure => exact file_of_not_replaced outcome draft

-- A root, if there is one, is below nothing, and no kind is unknown.
structure Fit (rows : Rows ω) : Prop where
  top : ∀ row, rows.get? rootId = some row → row.parentId = none
  legible : rows.Legible

theorem empty_fit : Fit (∅ : Rows ω) := ⟨nofun, Rows.empty_legible⟩

-- What is at the path may be no database at all.
def Left (files : Files ω) (path : String) : Prop :=
  ∀ database, files.get? path = some (.database database) → Fit database.rows

-- The rows of the open database, and those of the one at its path.
structure Upright (store : Store ω) : Prop where
  rooted : store.rows.Rooted
  legible : store.rows.Legible
  left : Left store.allFiles store.path

theorem upright_of_current (current : store.isCurrent = true) (rooted : store.rows.Rooted)
    (legible : store.rows.Legible) : Upright store := by
  refine ⟨rooted, legible, ?_⟩
  intro database there
  cases there.symm.trans (file_at_path current)
  refine ⟨?_, legible⟩
  intro row found
  obtain ⟨root, foundRoot, top⟩ := rooted
  cases found.symm.trans foundRoot
  exact top

variable [WrittenOrd ω]

/-- The stores that a profile can have. One is opened at any path where that succeeds. After that batches are applied,
versions recorded and trees exported, in any order and whether that succeeds or not; other files come and go, and
the database itself is replaced by another one, or by what is no database. -/
inductive Reached : Store ω → Prop
  | opened (files : Files ω) (path : String) (ids : IdSource) (now : Int) (store : Store ω) (left : Left files path)
      (opens : openAt files path ids now = .ok store) : Reached store
  | init (store next : Store ω) (now : Int) (reached : Reached store) (done : store.ensureRoot now = .ok next) :
      Reached next
  | apply (store : Store ω) (now : Int) (batch : List Operation) (reached : Reached store) :
      Reached (store.apply now batch).2
  | record (store : Store ω) (version : String) (reached : Reached store) : Reached (store.recordVersion version).2
  | snapshot (store : Store ω) (now : Int) (tree : Tree ω) (reached : Reached store) :
      Reached (store.writeSnapshot now tree).2
  | reopen (store : Store ω) (now : Int) (reached : Reached store) : Reached (store.reopen now).2
  | place (store : Store ω) (other : String) (content : Content ω) (reached : Reached store)
      (different : other ≠ store.path) : Reached (store.putFile other content)
  | replace (store : Store ω) (files : Files ω) (reached : Reached store) (left : Left files store.path) :
      Reached (store.withFiles files)

theorem initialized_rows_rooted {database : Database ω} (fit : Fit database.rows) (now : Int) :
    (initialized database now).rows.Rooted := by
  by_cases present : database.rows.contains rootId = true
  · obtain ⟨root, found⟩ := Keyed.contains_iff.mp present
    rw [initialized_of_rooted present]
    exact ⟨root, found, fit.top root found⟩
  · refine ⟨Rows.rootRow now, ?_, rfl⟩
    rw [initialized, if_neg present, Rows.withRoot, if_neg present, Keyed.get?_insert, if_pos rfl]

theorem initialized_rows_legible {database : Database ω} (fit : Fit database.rows) (now : Int) :
    (initialized database now).rows.Legible := by
  unfold initialized
  split
  · exact fit.legible
  · exact Rows.with_root_legible fit.legible now

omit [WrittenOrd ω] in
theorem as_database_ok {content : Content ω} {database : Database ω} (done : content.asDatabase = .ok database) :
    content = .database database ∨ database = ⟨∅, 0⟩ := by
  cases content with
  | directory => cases done
  | text text =>
      simp only [Content.asDatabase] at done
      split at done
      · exact Or.inr (Except.ok.inj done).symm
      · cases done
  | database found =>
      cases done
      exact Or.inl rfl
  | snapshot tree generatedAt => cases done

theorem open_upright {path : String} {ids : IdSource} (left : Left files path)
    (opens : openAt files path ids now = .ok store) : Upright store := by
  have opened : ∃ database, Fit database.rows ∧
      store = { path, database := initialized database now, isCurrent := true, files, ids } := by
    cases there : files.get? path with
    | none =>
        simp only [openAt, there] at opens
        cases opens
        exact ⟨⟨∅, 0⟩, empty_fit, rfl⟩
    | some content =>
        simp only [openAt, there] at opens
        obtain ⟨database, read, result⟩ := bind_eq_ok.mp opens
        cases result
        rcases as_database_ok read with rfl | rfl
        · exact ⟨database, left database there, rfl⟩
        · exact ⟨⟨∅, 0⟩, empty_fit, rfl⟩
  obtain ⟨database, fit, rfl⟩ := opened
  exact upright_of_current rfl (initialized_rows_rooted fit now) (initialized_rows_legible fit now)

theorem apply_store (store : Store ω) (now : Int) (batch : List Operation) :
    (store.apply now batch).2 = (store.commit now batch).2 := by
  unfold apply
  split <;> simp_all

theorem Upright.commit (upright : Upright store) (now : Int) (batch : List Operation) :
    Upright (store.commit now batch).2 := by
  cases done : store.commit now batch with
  | mk outcome next =>
      cases outcome with
      | error failure =>
          rw [commit_error done]
          exact upright
      | ok _ =>
          rcases commit_ok done with ⟨current, t, writes, stored, rfl⟩ | ⟨_, rfl⟩
          · have steps := Transaction.apply_all_steps stored
            exact upright_of_current current (upright.rooted.steps steps) (Rows.Steps.legible upright.legible steps)
          · exact upright

omit [WrittenOrd ω] in
theorem Upright.kept (upright : Upright store) (keeps : Keeps store next)
    (left : Left next.allFiles store.path) : Upright next := by
  refine ⟨keeps.rows ▸ upright.rooted, keeps.rows ▸ upright.legible, ?_⟩
  rw [keeps.path]
  exact left

omit [WrittenOrd ω] in
-- What is written to a file next to the database is no database, wherever that file is.
theorem Upright.replace_file (upright : Upright store) (path : String) {content : Content ω}
    (plain : ∀ database, content ≠ .database database) : Upright (store.replaceFile path content).2 := by
  refine upright.kept (replace_file_keeps store path content) ?_
  intro database there
  rcases file_of_replace store path content store.path with same | written | gone
  · exact upright.left database (same.symm.trans there)
  · exact absurd (Option.some.inj (written.symm.trans there)) (plain database)
  · cases gone.symm.trans there

theorem Upright.reopen (upright : Upright store) (now : Int) : Upright (store.reopen now).2 := by
  unfold Store.reopen
  split
  · rename_i opened opens
    exact open_upright upright.left opens
  · exact upright

theorem Upright.init (upright : Upright store) (done : store.ensureRoot now = .ok next) : next = store := by
  have rooted := upright.rooted.contains
  rw [ensureRoot, if_pos rooted, initialized_of_rooted rooted] at done
  by_cases current : store.isCurrent = true
  · rw [if_pos current] at done
    exact (Except.ok.inj done).symm
  · rw [if_neg current] at done
    exact (Except.ok.inj done).symm

theorem Reached.upright (reached : Reached store) : Upright store := by
  induction reached with
  | opened files path ids now store left opens => exact open_upright left opens
  | init store next now _ done ih =>
      rw [ih.init done]
      exact ih
  | apply store now batch _ ih =>
      rw [apply_store]
      exact ih.commit now batch
  | record store version _ ih => exact ih.replace_file _ fun _ => nofun
  | snapshot store now tree _ ih => exact ih.replace_file _ fun _ => nofun
  | reopen store now _ ih => exact ih.reopen now
  | place store other content _ different ih =>
      refine ih.kept (put_file_keeps store other content) ?_
      intro database there
      have same := file_of_put store other content store.path
      rw [if_neg different] at same
      exact ih.left database (same.symm.trans there)
  | replace store files _ left ih => exact ⟨ih.rooted, ih.legible, left⟩

-- A database that is opened again is the one in the file, and a store that cannot be opened stays what it is.
theorem reopen_of_same_file (samePath : next.path = store.path) (sameRows : next.rows = store.rows)
    (file : next.file? store.path = store.file? store.path) (now : Int) :
    (next.reopen now).1 = (store.reopen now).1 ∧ (next.reopen now).2.rows = (store.reopen now).2.rows := by
  have found : next.allFiles.get? next.path = store.allFiles.get? store.path := by
    rw [samePath]
    exact file
  unfold Store.reopen openAt
  rw [found]
  cases store.allFiles.get? store.path with
  | none => exact ⟨rfl, rfl⟩
  | some content =>
      cases read : content.asDatabase with
      | ok database =>
          simp only [read]
          exact ⟨rfl, rfl⟩
      | error failure =>
          simp only [read]
          exact ⟨rfl, sameRows⟩

-- The file of the database and its rows are what they were, and so is what comes of opening it again.
structure Spared (store next : Store ω) : Prop where
  file : next.file? store.path = store.file? store.path
  rows : next.rows = store.rows
  outcome : ∀ now, (next.reopen now).1 = (store.reopen now).1
  reopened : ∀ now, (next.reopen now).2.rows = (store.reopen now).2.rows

-- The tree that is loaded has the version, and all of the rows and nothing else.
def Reports (store : Store ω) (version : String) : Prop :=
  ∃ tree, store.load = .ok tree ∧ tree.version = version ∧ tree.nodes = Keyed.map Rows.nodeAt store.rows

theorem reports_of_version {version : String} (read : store.version = .ok version) (legible : store.rows.Legible) :
    Reports store version := by
  obtain ⟨tree, shown, own, _, nodes, _⟩ := Rows.tree_ok legible version
  exact ⟨tree, load_of_rows read shown, own, nodes⟩

theorem recorded_spares (version : String) (apart : sidecar store.path ≠ store.path ∨ ¬ Clear store) :
    Spared store (store.recordVersion version).2 := by
  have keeps := record_version_keeps store version
  have file := database_of_recorded version apart
  have again := reopen_of_same_file keeps.path keeps.rows file
  exact ⟨file, keeps.rows, fun now => (again now).1, fun now => (again now).2⟩

-- The version in the place of the database is no database, or an empty one if it is empty itself.
theorem recorded_replaces (version : String) (clear : Clear store) (same : sidecar store.path = store.path)
    (now : Int) :
    (store.recordVersion version).2.file? store.path = some (.text (version ++ "\n")) ∧
      (version ≠ "" → ((store.recordVersion version).2.reopen now).1 = .error (.database .notADatabase)) ∧
      (version = "" → ∃ opened, (store.recordVersion version).2.reopen now = (.ok (), opened) ∧
        opened.rows = (initialized ⟨∅, 0⟩ now).rows) := by
  have written := file_of_recorded ((recorded_iff store version).mpr clear)
  rw [same] at written
  have place := (record_version_keeps store version).path
  have found : (store.recordVersion version).2.allFiles.get? (store.recordVersion version).2.path =
      some (.text (version ++ "\n")) := by
    rw [place]
    exact written
  refine ⟨written, ?_, ?_⟩
  · intro filled
    have long : ¬ (version ++ "\n").utf8ByteSize ≤ 1 := by
      have some := Nat.pos_of_ne_zero (mt String.utf8ByteSize_eq_zero_iff.mp filled)
      rw [String.utf8ByteSize_append]
      have one : "\n".utf8ByteSize = 1 := rfl
      omega
    simp only [Store.reopen, openAt, found, Content.asDatabase, if_neg long]
    rfl
  · rintro rfl
    have short : ("" ++ "\n").utf8ByteSize ≤ 1 := by decide
    simp only [Store.reopen, openAt, found, Content.asDatabase, if_pos short]
    exact ⟨_, rfl, rfl⟩

-- The database that is open is opened again with the rows that it has.
theorem reopen_of_spared (reached : Reached store) (current : store.isCurrent = true)
    (samePath : next.path = store.path) (spared : Spared store next) (now : Int) :
    ∃ opened, next.reopen now = (.ok (), opened) ∧ opened.rows = store.rows := by
  have there : next.file? next.path = some (.database store.database) := by
    rw [samePath, spared.file]
    exact file_at_path current
  exact ⟨_, reopen_of_file there reached.upright.rooted.contains now, rfl⟩

theorem reports_of_reopen {opened : Store ω} {version : String} (upright : Upright store)
    (apart : sidecar store.path ≠ store.path) (read : store.version = .ok version)
    (done : store.reopen now = (.ok (), opened)) : Reports opened version := by
  have samePath : opened.path = store.path := (reopen_rooted done).1
  have kept : opened.version = store.version := version_of_same_file samePath (file_of_reopen done apart.symm)
  have legible : opened.rows.Legible := by
    have again := (upright.reopen now).legible
    rwa [done] at again
  exact reports_of_version (kept.trans read) legible

/-- What recording a version does to the database, whatever happened to the store before. The draft never has the
database's name, and the file for the version has it exactly where the name of the database ends in that extension.
Otherwise, or where nothing could be recorded, the database is spared. A version that was recorded is reported with
the rows, and where the names differ it is so when the database was opened again. Where they do not, the version
stands in the place of the database. That cannot be opened again, if the version is not itself what a database begins
with; an empty version leaves one byte, which is opened as a database of nothing but a new root. -/
theorem recording_spares_database (reached : Reached store) (version : String) (now : Int) :
    temporary (sidecar store.path) ≠ store.path ∧
    (sidecar store.path = store.path ↔ ∃ base, base ≠ "" ∧ Path.fileName store.path = base ++ ".version") ∧
    ((store.recordVersion version).1 = .ok () ↔ Clear store) ∧
    (sidecar store.path ≠ store.path ∨ ¬ Clear store →
      Spared store (store.recordVersion version).2 ∧
      (store.isCurrent = true →
        ∃ opened, (store.recordVersion version).2.reopen now = (.ok (), opened) ∧ opened.rows = store.rows)) ∧
    (Clear store → Text.Tidy version →
      (store.recordVersion version).2.rows = store.rows ∧ Reports (store.recordVersion version).2 version ∧
      (sidecar store.path ≠ store.path →
        ∀ opened, (store.recordVersion version).2.reopen now = (.ok (), opened) → Reports opened version)) ∧
    (Clear store → sidecar store.path = store.path →
      (store.recordVersion version).2.file? store.path = some (.text (version ++ "\n")) ∧
      (version ≠ "" → ¬ Content.databaseMark.toList <+: version.toList →
        ((store.recordVersion version).2.reopen now).1 = .error (.database .notADatabase)) ∧
      (version = "" → ∃ opened, (store.recordVersion version).2.reopen now = (.ok (), opened) ∧
        opened.rows = (initialized ⟨∅, 0⟩ now).rows)) := by
  have keeps := record_version_keeps store version
  have upright := (Reached.record store version reached).upright
  refine ⟨sidecar_draft_ne _, sidecar_eq_iff _, recorded_iff store version, ?spared, ?reported, ?replaced⟩
  case spared =>
    intro apart
    have spared := recorded_spares version apart
    exact ⟨spared, fun current => reopen_of_spared reached current keeps.path spared now⟩
  case reported =>
    intro clear tidy
    have read := version_of_record tidy ((recorded_iff store version).mpr clear)
    refine ⟨keeps.rows, reports_of_version read upright.legible, ?_⟩
    intro apart opened done
    rw [← keeps.path] at apart
    exact reports_of_reopen upright apart read done
  case replaced =>
    intro clear same
    obtain ⟨written, closed, emptied⟩ := recorded_replaces version clear same now
    exact ⟨written, fun filled _ => closed filled, emptied⟩

-- The store of a new profile.
def newborn (path : String) : Store ℚ :=
  { path, database := initialized ⟨∅, 0⟩ 0, isCurrent := true, files := ∅, ids := {} }

theorem newborn_reached (path : String) : Reached (newborn path) := by
  refine .opened ∅ path {} 0 _ ?_ rfl
  intro database there
  cases there

theorem recording_spares_database_newborn :
    ((newborn "state.db").recordVersion "v1").1 = .ok () ∧
    ((newborn "state.db").recordVersion "v1").2.file? "state.db" = (newborn "state.db").file? "state.db" ∧
    ∃ opened, ((newborn "state.db").recordVersion "v1").2.reopen 1 = (.ok (), opened) ∧
      opened.rows = (newborn "state.db").rows ∧ Reports opened "v1" := by
  have clear : Clear (newborn "state.db") := ⟨rfl, rfl⟩
  have apart : sidecar (newborn "state.db").path ≠ (newborn "state.db").path := by decide
  obtain ⟨_, _, recorded, spares, reports, _⟩ := recording_spares_database (newborn_reached "state.db") "v1" 1
  obtain ⟨spared, reopens⟩ := spares (Or.inl apart)
  obtain ⟨opened, done, same⟩ := reopens rfl
  exact ⟨recorded.mpr clear, spared.file, opened, done, same, (reports clear ⟨by decide, by decide⟩).2.2 apart opened done⟩

-- A database whose name has the extension that the version is recorded under: the version takes its place.
theorem recording_replaces_database :
    ¬ ∀ (store : Store ℚ) (version : String), Reached store →
      (store.recordVersion version).2.file? store.path = store.file? store.path := by
  intro untouched
  have written : ((newborn "state.version").recordVersion "v1").2.file? "state.version" = some (.text "v1\n") := rfl
  have before : (newborn "state.version").file? "state.version" = some (.database (newborn "state.version").database) := rfl
  have same := untouched _ "v1" (newborn_reached "state.version")
  cases before.symm.trans (same.symm.trans written)

end Store

end Bookmarks
