import Bookmarks.Proofs.Store.Reload
import Bookmarks.Proofs.Store.Upkeep
import Bookmarks.Proofs.Text.Trimming
import Bookmarks.Proofs.Tree.Changes
import Bookmarks.Version.History

/-!
The file that the version is kept in. Its name is none of the names that the export needs, so the version is
read as it was recorded, whatever is exported in between (`version_of_record`, `version_of_write_snapshot`).
-/
set_option autoImplicit false

namespace Bookmarks

namespace Text

-- A text with something in it, and nothing blank around it.
def Tidy (text : String) : Prop := text ≠ "" ∧ trim text = text

theorem trim_line {text : String} (tidy : Tidy text) : trim (text ++ "\n") = text := by
  obtain ⟨something, kept⟩ := tidy
  have characters : trimBoth isBlank text.toList = text.toList := by
    have same := congrArg String.toList kept
    rwa [trim, String.toList_ofList] at same
  have nonempty : text.toList ≠ [] := fun empty => something (String.toList_eq_nil_iff.mp empty)
  have line : (text ++ "\n").toList = text.toList ++ ['\n'] := String.toList_append
  rw [trim, line, trim_both_append_one characters nonempty (by decide), String.ofList_toList]

theorem digit_of_digits {places n : Nat} {c : Char} (member : c ∈ Hex.digits places n) :
    ∃ digit < 16, c = Nat.digitChar digit := by
  induction places generalizing n with
  | zero => cases member
  | succ places ih =>
      rcases List.mem_append.mp member with earlier | last
      · exact ih earlier
      · exact ⟨n % 16, Nat.mod_lt n (by decide), List.mem_singleton.mp last⟩

theorem digit_not_blank : ∀ digit < 16, isBlank (Nat.digitChar digit) = false := by
  decide

end Text

theorem hash_tidy (number : Nat) : Text.Tidy (hashOf number) := by
  constructor
  · intro empty
    have lengths := congrArg String.length empty
    rw [hashOf, String.length_ofList, Text.Hex.digits, List.length_append, List.length_singleton] at lengths
    cases lengths
  · have solid : ∀ c ∈ Text.Hex.digits 40 number, Text.isBlank c = false := by
      intro c member
      obtain ⟨digit, small, rfl⟩ := Text.digit_of_digits member
      exact Text.digit_not_blank digit small
    rw [Text.trim, hashOf, String.toList_ofList, Text.trim_both_of_none solid]

namespace Store

theorem sidecar_ends (path : String) : ".version".toList <:+ (sidecar path).toList := by
  refine ⟨(Path.parent path ++ Path.stem (Path.fileName path)).toList, ?_⟩
  simp [sidecar, Path.withExtension, String.toList_append]

theorem sidecar_draft_ends (path : String) : ".version.tmp".toList <:+ (temporary (sidecar path)).toList := by
  obtain ⟨base, same⟩ := sidecar_ends path
  refine ⟨base, ?_⟩
  rw [temporary, String.toList_append, ← same, List.append_assoc]
  rfl

theorem snapshot_ne_sidecar (path : String) : snapshotFile ≠ sidecar path := by
  intro same
  have ending := sidecar_ends path
  rw [← same] at ending
  exact absurd ending (by decide)

theorem snapshot_draft_ne_sidecar (path : String) : temporary snapshotFile ≠ sidecar path := by
  intro same
  have ending := sidecar_ends path
  rw [← same] at ending
  exact absurd ending (by decide)

theorem sidecar_draft_ne_snapshot (path : String) : temporary (sidecar path) ≠ snapshotFile := by
  intro same
  have ending := sidecar_draft_ends path
  rw [same] at ending
  exact absurd ending (by decide)

variable {ω : Type} {store : Store ω} {path other : String} {content : Content ω}

theorem file_of_replaced (done : (store.replaceFile path content).1 = .ok ()) (other : String) :
    (store.replaceFile path content).2.file? other =
      if path = other then some content else if temporary path = other then none else store.file? other := by
  unfold replaceFile at done ⊢
  split at done
  · cases done
  · split at done
    · cases done
    · rename_i noDraft noTarget
      rw [if_neg noDraft, if_neg noTarget]
      simp only [file_of_put, file_of_draft]

theorem replace_file_ok (content : Content ω) (draft : store.isDirectory (temporary path) = false)
    (target : store.isDirectory path = false) : (store.replaceFile path content).1 = .ok () := by
  rw [replaceFile, draft, target]
  rfl

theorem file_of_not_replaced {failure : StoreError} (failed : (store.replaceFile path content).1 = .error failure)
    (different : temporary path ≠ other) : (store.replaceFile path content).2.file? other = store.file? other := by
  unfold replaceFile at failed ⊢
  by_cases draft : store.isDirectory (temporary path) = true
  · rw [if_pos draft]
  · rw [if_neg draft] at failed ⊢
    by_cases target : store.isDirectory path = true
    · rw [if_pos target, file_of_put, if_neg different]
    · rw [if_neg target] at failed
      cases failed

-- Replacing a file concerns that file and its draft.
theorem file_of_replace_other (content : Content ω) (different : path ≠ other) (draft : temporary path ≠ other) :
    (store.replaceFile path content).2.file? other = store.file? other := by
  cases outcome : (store.replaceFile path content).1 with
  | error failure => exact file_of_not_replaced outcome draft
  | ok _ => rw [file_of_replaced outcome, if_neg different, if_neg draft]

-- The version is recorded without a trace in the export.
theorem snapshot_of_record (store : Store ω) (version : String) :
    (store.recordVersion version).2.file? snapshotFile = store.file? snapshotFile :=
  file_of_replace_other _ (snapshot_ne_sidecar _).symm (sidecar_draft_ne_snapshot _)

theorem file_of_recorded {version : String} (done : (store.recordVersion version).1 = .ok ()) :
    (store.recordVersion version).2.file? (sidecar store.path) = some (.text (version ++ "\n")) := by
  rw [recordVersion, file_of_replaced done, if_pos rfl]

variable [WrittenOrd ω]

theorem version_of_same_file {next : Store ω} (samePath : next.path = store.path)
    (sameFile : next.file? (sidecar store.path) = store.file? (sidecar store.path)) : next.version = store.version := by
  simp only [version, samePath, sameFile]

theorem version_of_load {tree : Tree ω} (loaded : store.load = .ok tree) : store.version = .ok tree.version := by
  obtain ⟨version, read, shown⟩ := bind_eq_ok.mp loaded
  have own := Rows.tree_version shown version
  rw [shown] at own
  rw [read, congrArg Tree.version (Except.ok.inj own)]

theorem load_of_rows {tree : Tree ω} {version : String} (read : store.version = .ok version)
    (shown : store.rows.tree version = .ok tree) : store.load = .ok tree :=
  (bind_of_ok read _).trans shown

-- A batch does not touch the version.
theorem version_of_commit {next : Store ω} {before after : Tree ω} {now : Int} {batch : List Operation}
    (loaded : store.load = .ok before) (done : store.commit now batch = (.ok (), next))
    (reloaded : next.load = .ok after) : after.version = before.version := by
  have read := version_of_load loaded
  have reread := version_of_load reloaded
  have kept : next.version = .ok before.version := by
    rcases commit_ok done with ⟨_, t, writes, _, rfl⟩ | ⟨_, rfl⟩
    · exact version_of_database read _ _
    · exact read
  exact Except.ok.inj (reread.symm.trans kept)

theorem version_of_write_snapshot (store : Store ω) (now : Int) (tree : Tree ω) :
    (store.writeSnapshot now tree).2.version = store.version :=
  version_of_same_file (write_snapshot_keeps store now tree).path
    (file_of_replace_other _ (snapshot_ne_sidecar _) (snapshot_draft_ne_sidecar _))

theorem version_of_record {version : String} (tidy : Text.Tidy version)
    (done : (store.recordVersion version).1 = .ok ()) : (store.recordVersion version).2.version = .ok version := by
  have samePath := (record_version_keeps store version).path
  have written := file_of_recorded done
  have shown : ¬ version.isEmpty = true := by
    rw [String.isEmpty_iff]
    exact tidy.1
  unfold Store.version
  rw [samePath, written]
  simp only [Content.readText]
  rw [bind_of_ok rfl, Text.trim_line tidy, if_neg shown]
  rfl

theorem version_of_not_recorded {version : String} {failure : StoreError}
    (failed : (store.recordVersion version).1 = .error failure) :
    (store.recordVersion version).2.version = store.version := by
  refine version_of_same_file (record_version_keeps store version).path (file_of_not_replaced failed ?_)
  intro same
  have lengths := congrArg String.length same
  rw [temporary, String.length_append] at lengths
  have more : ".tmp".length = 4 := rfl
  omega

end Store

end Bookmarks
