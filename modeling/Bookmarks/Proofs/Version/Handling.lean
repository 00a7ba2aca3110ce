import Bookmarks.Proofs.Keyed
import Bookmarks.Version.Repository

/-!
Files on the way from one commit to a later one, where there are only files. One that is not as the earlier commit has
it is left alone (`file_of_forward_plain`), and where everything is as in the earlier commit nothing is in the way
(`forward_plain_of_clean`).
-/
set_option autoImplicit false

namespace Bookmarks

namespace Handling

variable {κ : Type} {before after index files nextIndex nextFiles : Keyed κ}

theorem get_of_set_file (files : Keyed κ) (path : String) (content : Option κ) (found : String) :
    (setFile files path content).get? found = if path = found then content else files.get? found := by
  cases content with
  | none => rw [setFile, Keyed.get?_erase]
  | some value => rw [setFile, Keyed.get?_insert]

-- What is staged at a path after these paths are.
def staging {δ : Type} (handling : Handling κ δ) (directory : δ) (index : Keyed κ) (paths : List String) (path : String) :
    Option κ :=
  if path ∈ (handling.add directory index paths).2 then handling.content directory path else index.get? path

theorem index_of_stage {δ : Type} (handling : Handling κ δ) (repository : Repository κ) (directory : δ)
    (paths : List String) :
    ∃ index, repository.stage handling directory paths =
        ((handling.add directory repository.index paths).1, { repository with index }) ∧
      ∀ path, index.get? path = handling.staging directory repository.index paths path :=
  ⟨_, rfl, Keyed.get?_foldl (fun table key found => get_of_set_file table key (handling.content directory key) found)
    repository.index _⟩

variable [BEq κ]

-- The files that moving on to another commit replaces.
def replacedBy (before after index files : Keyed κ) : List String :=
  (pathsOf before after).filter fun path =>
    moveOf (before.get? path) (after.get? path) (index.get? path) (files.get? path) = .replace

theorem forward_plain_ok (moved : forwardPlain before after index files = .ok (nextIndex, nextFiles)) :
    (∀ path ∈ pathsOf before after,
      (moveOf (before.get? path) (after.get? path) (index.get? path) (files.get? path)).isRefusal = false) ∧
    ∀ path, nextFiles.get? path = (if path ∈ replacedBy before after index files then after.get? path else files.get? path) ∧
      nextIndex.get? path = (if path ∈ replacedBy before after index files then after.get? path else index.get? path) := by
  have updates (table : Keyed κ) (found : String) :=
    Keyed.get?_foldl (fun table key found => get_of_set_file table key (after.get? key) found) table
      (replacedBy before after index files) found
  unfold forwardPlain at moved
  simp only at moved
  split at moved
  · cases moved
  · rename_i allowed
    cases moved
    refine ⟨?_, fun path => ⟨updates _ path, updates _ path⟩⟩
    intro path listed
    exact Bool.eq_false_iff.mpr fun refused => allowed (List.any_eq_true.mpr ⟨path, listed, refused⟩)

-- Where files can be staged, they are staged as they are.
theorem staging_plain {paths : List String} {path : String} (complete : (plain.add files index paths).1 = true)
    (listed : path ∈ paths) : plain.staging files index paths path = files.get? path := by
  have all : (plain.add files index paths).2 = paths := by
    simp only [plain] at complete ⊢
    split
    · rfl
    · rename_i unknown
      rw [if_neg unknown] at complete
      cases complete
  rw [staging, all, if_pos listed]
  rfl

-- What is replaced is as the earlier commit has it, or was not there.
theorem safe_of_replace {before after staged file : Option κ} (replaced : moveOf before after staged file = .replace) :
    file = none ∨ (file == before) = true := by
  unfold moveOf at replaced
  cases file with
  | none => exact Or.inl rfl
  | some content =>
      cases staged with
      | none =>
          cases before <;> cases after <;> simp only [Option.isNone_some, Bool.false_eq_true, if_false] at replaced <;>
            split at replaced <;> cases replaced
      | some other =>
          simp only [Option.isNone_some, Bool.false_or] at replaced
          split at replaced
          · cases replaced
          · split at replaced
            · cases replaced
            · split at replaced
              · rename_i same
                exact Or.inr (Bool.and_eq_true _ _ ▸ same).2
              · cases replaced

-- A file that is replaced on the way to a later commit is one that the earlier commit has, too, or was not there.
theorem file_of_forward_plain (moved : forwardPlain before after index files = .ok (nextIndex, nextFiles))
    (path : String) :
    nextFiles.get? path = files.get? path ∨ files.get? path = none ∨ (files.get? path == before.get? path) = true := by
  rw [((forward_plain_ok moved).2 path).1]
  by_cases replaced : path ∈ replacedBy before after index files
  · exact Or.inr (safe_of_replace (of_decide_eq_true (List.mem_filter.mp replaced).2))
  · exact Or.inl (if_neg replaced)

variable {content target : κ} {path : String}

-- Where nothing was changed since the last commit, a file stays only if the later one has the same.
theorem move_of_held (exact : ∀ other, (content == other) = true → other = content)
    (kept : moveOf (some content) (some target) (some content) (some content) = .keep) : target = content := by
  by_cases same : (some content == some target) = true
  · exact exact target same
  · simp only [moveOf, if_neg same] at kept
    split at kept <;> cases kept

theorem move_of_clean {before after staged file : Option κ} (sameFile : (file == before) = true)
    (sameStaged : (staged == before) = true) : (moveOf before after staged file).isRefusal = false := by
  unfold moveOf
  split
  · rfl
  · cases staged with
    | some content =>
        simp only [sameStaged, sameFile, Bool.or_true, Bool.and_self, if_true]
        split <;> rfl
    | none =>
        cases before with
        | some _ => cases sameStaged
        | none => cases file with
            | some _ => cases sameFile
            | none => rfl

-- Where everything is as in the earlier commit, nothing is in the way.
theorem forward_plain_of_clean (clean : ∀ path, (files.get? path == before.get? path) = true ∧
    (index.get? path == before.get? path) = true) : ∃ moved, forwardPlain before after index files = .ok moved := by
  have allowed : ¬ ((pathsOf before after).any fun path =>
      (moveOf (before.get? path) (after.get? path) (index.get? path) (files.get? path)).isRefusal) = true := by
    intro refused
    obtain ⟨path, _, refusal⟩ := List.any_eq_true.mp refused
    cases (move_of_clean (clean path).1 (clean path).2).symm.trans refusal
  unfold forwardPlain
  simp only
  rw [if_neg allowed]
  exact ⟨_, rfl⟩

-- A file that is as the earlier commit has it comes to be as the later one has it.
theorem forward_plain_lands (moved : forwardPlain before after index files = .ok (nextIndex, nextFiles))
    (exact : ∀ other, (content == other) = true → other = content) (former : before.get? path = some content)
    (staged : index.get? path = some content) (there : files.get? path = some content)
    (found : after.get? path = some target) :
    nextFiles.get? path = some target ∧ nextIndex.get? path = some target := by
  have inside : path ∈ pathsOf before after :=
    List.mem_append_left _ (List.mem_map.mpr ⟨(path, content), Keyed.get?_eq_some_iff.mp former, rfl⟩)
  obtain ⟨allowed, results⟩ := forward_plain_ok moved
  have allowed := allowed path inside
  have whether : path ∈ replacedBy before after index files ↔
      moveOf (some content) (some target) (some content) (some content) = .replace := by
    rw [replacedBy, List.mem_filter, decide_eq_true_eq, former, found, staged, there]
    exact and_iff_right inside
  rw [former, found, staged, there] at allowed
  rw [(results path).1, (results path).2]
  cases way : moveOf (some content) (some target) (some content) (some content) with
  | replace =>
      have replaced := whether.mpr way
      rw [if_pos replaced, if_pos replaced]
      exact ⟨found, found⟩
  | refuse =>
      rw [way] at allowed
      cases allowed
  | keep =>
      have kept := mt whether.mp (by rw [way]; decide)
      rw [if_neg kept, if_neg kept, move_of_held exact way]
      exact ⟨there, staged⟩

theorem check_out_plain_lands (started : plain.checkOut after index files = .ok (nextIndex, nextFiles))
    (found : after.get? path = some target) :
    nextFiles.get? path = some target ∧ nextIndex.get? path = some target := by
  cases started
  exact ⟨Keyed.get?_of_inserted found _, found⟩

end Handling

end Bookmarks
