import Bookmarks.Proofs.Daemon.Announcements
import Bookmarks.Proofs.Store.Sidecar

/-!
What is seen of a batch that was applied: in the answer, in the tree that is loaded next, in the announcement
and in the export. They agree (`batch_seen_alike`), whichever of the export, the commit and the recording of the
version fail.
-/
set_option autoImplicit false

namespace Bookmarks.Daemon

variable {ω σ : Type} [WrittenOrd ω] {daemon : Daemon ω σ} {now : Int} {batch : List Operation}

open Text (Tidy)

-- What the version control answers once the export is there.
def commitAnswer (daemon : Daemon ω σ) (exported : Store ω) (message : String) : Except VersionError CommitStatus :=
  (daemon.control.commit daemon.versions exported.allFiles [exported.path, snapshotFile] message).1

omit [WrittenOrd ω] in
theorem export_status (daemon : Daemon ω σ) {exported : Store ω} {tree : Tree ω}
    (wrote : daemon.store.writeSnapshot now tree = (.ok (), exported))
    (message : String) : (daemon.exportTree now tree message).1 =
      (commitAnswer daemon exported message).toOption.getD .deferred := by
  simp only [exportTree, wrote]
  rfl

omit [WrittenOrd ω] in
theorem export_deferred (daemon : Daemon ω σ) {wrote : Except StoreError Unit} {exported : Store ω} {tree : Tree ω}
    {message : String} (written : daemon.store.writeSnapshot now tree = (wrote, exported))
    (unanswered : wrote = .ok () → ∀ status, commitAnswer daemon exported message ≠ .ok status) :
    (daemon.exportTree now tree message).1 = .deferred := by
  cases wrote with
  | error failure => simp only [exportTree, written]
  | ok _ =>
      rw [export_status daemon written]
      cases answered : commitAnswer daemon exported message with
      | error failure => rfl
      | ok status => exact absurd answered (unanswered rfl status)

omit [WrittenOrd ω] in
theorem record_commit_tree (daemon : Daemon ω σ) (tree : Tree ω) (status : CommitStatus) :
    (daemon.recordCommit tree status).1 = { tree with version := (daemon.recordCommit tree status).1.version } := by
  unfold recordCommit
  split
  · rfl
  · split
    · rfl
    · split <;> rfl

-- The version of the tree is the recorded one, before and after.
theorem record_commit_version {tree : Tree ω} {status : CommitStatus} (read : daemon.store.version = .ok tree.version)
    (tidy : ∀ hash, status.hash = some hash → Tidy hash) :
    (daemon.recordCommit tree status).2.store.version = .ok (daemon.recordCommit tree status).1.version := by
  unfold recordCommit
  cases returned : status.hash with
  | none => exact read
  | some hash =>
      by_cases known : hash = tree.version
      · simp only [if_pos known]
        exact read
      · simp only [if_neg known]
        cases recorded : daemon.store.recordVersion hash with
        | mk outcome store =>
            have last : (daemon.store.recordVersion hash).2 = store := congrArg Prod.snd recorded
            cases outcome with
            | ok _ =>
                simp only
                rw [← last]
                exact Store.version_of_record (tidy hash returned) (congrArg Prod.fst recorded)
            | error failure =>
                simp only
                rw [← last, Store.version_of_not_recorded (congrArg Prod.fst recorded)]
                exact read

omit [WrittenOrd ω] in
theorem version_of_recorded (daemon : Daemon ω σ) (tree : Tree ω) {status : CommitStatus} {hash : String}
    (returned : status.hash = some hash) (recorded : (daemon.store.recordVersion hash).1 = .ok ()) :
    (daemon.recordCommit tree status).1.version = hash := by
  unfold recordCommit
  simp only [returned]
  by_cases known : hash = tree.version
  · rw [if_pos known]
    exact known.symm
  · rw [if_neg known]
    cases outcome : daemon.store.recordVersion hash with
    | mk answer store =>
        rw [outcome] at recorded
        simp only at recorded
        rw [recorded]

omit [WrittenOrd ω] in
theorem version_of_unrecorded (daemon : Daemon ω σ) (tree : Tree ω) {status : CommitStatus}
    (unrecorded : ∀ hash, status.hash = some hash → (daemon.store.recordVersion hash).1 ≠ .ok ()) :
    (daemon.recordCommit tree status).1.version = tree.version := by
  unfold recordCommit
  cases returned : status.hash with
  | none => rfl
  | some hash =>
      by_cases known : hash = tree.version
      · simp only [if_pos known]
      · simp only [if_neg known]
        cases outcome : daemon.store.recordVersion hash with
        | mk answer store =>
            cases answer with
            | ok _ => exact absurd (congrArg Prod.fst outcome) (unrecorded hash returned)
            | error failure => rfl

omit [WrittenOrd ω] in
theorem snapshot_of_record_commit (daemon : Daemon ω σ) (tree : Tree ω) (status : CommitStatus) :
    (daemon.recordCommit tree status).2.store.file? snapshotFile = daemon.store.file? snapshotFile := by
  rcases record_commit_store daemon tree status with same | ⟨hash, same⟩
  · rw [same]
  · rw [same, Store.snapshot_of_record]

theorem load_of_settle (daemon : Daemon ω σ) {after : Tree ω} (loaded : daemon.store.load = .ok after) (now : Int)
    (before : Tree ω) (message : String)
    (tidy : ∀ hash, (daemon.settle now before after message).1.status.hash = some hash → Tidy hash) :
    (daemon.settle now before after message).2.store.load = .ok (daemon.settle now before after message).1.tree := by
  obtain ⟨_, _, shown⟩ := bind_eq_ok.mp loaded
  have exported : (daemon.exportTree now after message).2.store.version = .ok after.version := by
    rw [export_store, Store.version_of_write_snapshot]
    exact Store.version_of_load loaded
  have recorded := record_commit_version exported tidy
  have kept := settle_keeps daemon now before after message
  have tree := record_commit_tree (daemon.exportTree now after message).2 after (daemon.exportTree now after message).1
  refine Store.load_of_rows recorded ?_
  rw [kept.rows]
  exact (Rows.tree_version shown _).trans (congrArg Except.ok tree.symm)

-- The export holds what the answer shows.
theorem snapshot_of_settle (daemon : Daemon ω σ) {exported : Store ω} {after : Tree ω} (now : Int) (before : Tree ω)
    (message : String)
    (wrote : daemon.store.writeSnapshot now after = (.ok (), exported)) :
    (daemon.settle now before after message).2.store.file? snapshotFile = some (.snapshot after now) := by
  have recorded := snapshot_of_record_commit (daemon.exportTree now after message).2 after
    (daemon.exportTree now after message).1
  refine recorded.trans ?_
  rw [export_store, Store.writeSnapshot, Store.file_of_replaced (congrArg Prod.fst wrote), if_pos rfl]

/-- After a batch that was applied, the tree in the answer is the one that is loaded next and the one that the
announcement has the version of. That version is the hash of the commit if there is one and it was recorded, and
the version from before if not. A change that was not committed is pending, and an export that was written
holds the nodes and the children of the answer. -/
theorem batch_seen_alike {applied : Applied ω} {next : Daemon ω σ} (done : daemon.apply now batch = (.ok applied, next))
    (tidy : ∀ hash, applied.status.hash = some hash → Tidy hash) :
    ∃ before stored after wrote exported, daemon.tree = .ok before ∧
      daemon.store.apply now batch = (.ok after, stored) ∧ stored.writeSnapshot now after = (wrote, exported) ∧
      next.tree = .ok applied.tree ∧
      Announces (fun daemon => (daemon.apply now batch).2) daemon [⟨applied.tree.version, applied.changedIds, now⟩] ∧
      (∀ hash, applied.status.hash = some hash → (exported.recordVersion hash).1 = .ok () →
        applied.tree.version = hash) ∧
      ((∀ hash, applied.status.hash = some hash → (exported.recordVersion hash).1 ≠ .ok ()) →
        applied.tree.version = before.version) ∧
      (∀ status, wrote = .ok () → commitAnswer daemon exported (commitMessage batch) = .ok status →
        applied.status = status) ∧
      ((wrote = .ok () → ∀ status, commitAnswer daemon exported (commitMessage batch) ≠ .ok status) →
        applied.status.pending = true) ∧
      (wrote = .ok () → ∃ shown, next.store.file? snapshotFile = some (.snapshot shown now) ∧
        shown.nodes = applied.tree.nodes ∧ ∀ id, shown.childrenOf id = applied.tree.childrenOf id) := by
  rcases apply_cases daemon now batch with ⟨failure, _, same⟩ | ⟨_, failure, _, _, same⟩ |
    ⟨before, after, stored, checked, committed, reloaded, same⟩
  · rw [same] at done
    cases done
  · rw [same] at done
    cases done
  rw [same] at done
  cases done
  obtain ⟨loaded, _⟩ := check_ok checked
  have version := Store.version_of_commit loaded committed reloaded
  cases written : stored.writeSnapshot now after with
  | mk wrote exported =>
      have last : (exportTree { daemon with store := stored } now after (commitMessage batch)).2.store = exported := by
        rw [export_store, written]
      have tree := record_commit_tree (exportTree { daemon with store := stored } now after (commitMessage batch)).2 after
        (exportTree { daemon with store := stored } now after (commitMessage batch)).1
      refine ⟨before, stored, after, wrote, exported, map_error_ok.mpr loaded, ?stored, written, ?loaded,
        stored_announces checked committed reloaded, ?recorded, ?unrecorded, ?answered, ?pending, ?exported⟩
      case stored => simp only [Store.apply, committed, reloaded]
      case loaded =>
        exact map_error_ok.mpr (load_of_settle { daemon with store := stored } reloaded now before _ tidy)
      case recorded =>
        intro hash returned recorded
        rw [← last] at recorded
        exact version_of_recorded _ after returned recorded
      case unrecorded =>
        intro unrecorded
        rw [← last] at unrecorded
        exact (version_of_unrecorded _ after unrecorded).trans version
      case answered =>
        rintro status rfl answered
        refine (export_status { daemon with store := stored } written _).trans ?_
        exact congrArg (·.toOption.getD CommitStatus.deferred) answered
      case pending =>
        intro unanswered
        exact congrArg CommitStatus.pending (export_deferred { daemon with store := stored } written unanswered)
      case exported =>
        rintro rfl
        exact ⟨after, snapshot_of_settle { daemon with store := stored } now before _ written,
          (congrArg Tree.nodes tree).symm, fun id => (congrArg (·.childrenOf id) tree).symm⟩

-- A version control that commits whatever it is given.
def keeper : VersionControl (Content ℚ) Unit where
  commit _ _ _ _ := (.ok ⟨true, false, some "c0ffee"⟩, ())
  push _ := (.ok (), ())
  pull _ files _ := (.ok files, ())
  status _ _ := (.ok {}, ())

def kept : Daemon ℚ Unit := start loneBookmark.store "main" keeper ()

theorem batch_seen_alike_kept :
    ∃ applied next, kept.apply 1 (retitles 0) = (.ok applied, next) ∧
      (∀ hash, applied.status.hash = some hash → Tidy hash) ∧ next.tree = .ok applied.tree ∧
      applied.tree.version = "c0ffee" := by
  have outcome : (kept.apply 1 (retitles 0)).1.toOption.map
      (fun applied => (applied.status.hash, applied.tree.version)) = some (some "c0ffee", "c0ffee") := by decide +kernel
  cases done : kept.apply 1 (retitles 0) with
  | mk answer next =>
      cases answer with
      | error failure =>
          rw [done] at outcome
          cases outcome
      | ok applied =>
          rw [done] at outcome
          have same : (applied.status.hash, applied.tree.version) = (some "c0ffee", "c0ffee") := Option.some.inj outcome
          obtain ⟨returned, version⟩ := Prod.mk.inj same
          have tidy : ∀ hash, applied.status.hash = some hash → Tidy hash := by
            intro hash other
            rw [returned] at other
            cases other
            exact ⟨by decide, by decide⟩
          obtain ⟨_, _, _, _, _, _, _, _, loaded, _⟩ := batch_seen_alike done tidy
          exact ⟨applied, next, rfl, tidy, loaded, version⟩

end Bookmarks.Daemon
