import Bookmarks.Proofs.Daemon.Announcements
import Bookmarks.Proofs.Store.Contents
import Bookmarks.Proofs.Store.Sidecar

/-!
The ways in which a pull can end, whatever keeps the versions. It fails before anything is taken over and leaves the
store alone, or files are taken over and adopted (`pull_ways`); what is adopted cannot be opened, or it is open
then and the version of the head is recorded for it (`adopt_ways`).
-/
set_option autoImplicit false

namespace Bookmarks

open Store (Keeps Apart)

namespace Store

variable {ω : Type} {store : Store ω}

-- The version of the head is recorded, if there is a head.
def headed (store : Store ω) : Option String → Except StoreError Unit × Store ω
  | none => (.ok (), store)
  | some hash => store.recordVersion hash

theorem headed_keeps (store : Store ω) (head : Option String) : Keeps store (store.headed head).2 := by
  cases head with
  | none => exact .refl store
  | some hash => exact record_version_keeps store hash

-- The version is that of the head, or still the one from before if it could not be recorded.
theorem headed_version [WrittenOrd ω] (store : Store ω) {hash : String} (tidy : Text.Tidy hash) :
    (store.headed (some hash)).2.version = .ok hash ∨ (store.headed (some hash)).1 ≠ .ok () ∧
      (store.headed (some hash)).2.version = store.version := by
  unfold headed
  cases recorded : (store.recordVersion hash).1 with
  | ok _ => exact Or.inl (version_of_record tidy recorded)
  | error failure => exact Or.inr ⟨by simp, version_of_not_recorded recorded⟩

theorem headed_current (apart : Apart store.path) (head : Option String) :
    (store.headed head).2.isCurrent = store.isCurrent := by
  cases head with
  | none => rfl
  | some hash => exact record_version_current apart hash

end Store

namespace Daemon

variable {ω σ : Type} [WrittenOrd ω] {daemon : Daemon ω σ} {now : Int} {before : Tree ω}

theorem reload_ways (daemon : Daemon ω σ) (now : Int) (before : Tree ω) :
    ∃ answer last, daemon.reload now before = (answer, last) ∧ last.store = daemon.store ∧
      last.versions = daemon.versions ∧
      ((∃ failure, answer = .error (.store failure)) ∨ ∃ tree, answer = .ok tree ∧ daemon.store.load = .ok tree) := by
  unfold reload
  cases loaded : daemon.store.load with
  | error failure =>
      have failed : daemon.tree = .error (.store failure) := by
        rw [tree, loaded]
        rfl
      simp only [failed]
      exact ⟨_, _, rfl, rfl, rfl, Or.inl ⟨failure, rfl⟩⟩
  | ok tree =>
      have found : daemon.tree = .ok tree := map_error_ok.mpr loaded
      simp only [found]
      refine ⟨_, _, rfl, ?_, ?_, Or.inr ⟨tree, rfl, rfl⟩⟩ <;> split <;> rfl

omit [WrittenOrd ω] in
theorem record_head_eq (daemon : Daemon ω σ) (status : BranchStatus) :
    daemon.recordHead status = ((daemon.store.headed status.localHash).1.mapError .store,
      { daemon with store := (daemon.store.headed status.localHash).2 }) := by
  unfold recordHead
  cases status.localHash <;> rfl

-- The database that was put in place cannot be opened, or it is open then.
theorem adopt_ways (daemon : Daemon ω σ) (now : Int) (before : Tree ω) :
    (∃ failure, daemon.store.reopen now = (.error failure, daemon.store) ∧
      daemon.adopt now before = (.error (.store failure), daemon)) ∨
    ∃ opened answer last, daemon.store.reopen now = (.ok (), opened) ∧ daemon.adopt now before = (answer, last) ∧
      last.versions = daemon.status.2.versions ∧
      ((∃ failure, daemon.status.1 = .error failure ∧ answer = .error failure ∧ last.store = opened) ∨
      ∃ status, daemon.status.1 = .ok status ∧ last.store = (opened.headed status.localHash).2 ∧
        ((∃ failure, answer = .error (.store failure)) ∨
        ∃ tree, answer = .ok tree ∧ (opened.headed status.localHash).1 = .ok () ∧ last.store.load = .ok tree)) := by
  cases reopened : daemon.store.reopen now with
  | mk outcome opened =>
      cases outcome with
      | error failure =>
          have same := Store.reopen_error reopened
          subst same
          refine Or.inl ⟨failure, rfl, ?_⟩
          simp only [adopt, reopen, reopened]
          rfl
      | ok _ =>
          have again : daemon.reopen now = (.ok (), { daemon with store := opened }) := by
            simp only [reopen, reopened]
            rfl
          have asked : ({ daemon with store := opened } : Daemon ω σ).status =
              (daemon.status.1, { daemon with store := opened, versions := daemon.status.2.versions }) := rfl
          cases position : daemon.status.1 with
          | error failure =>
              have failed : daemon.adopt now before =
                  (.error failure, { daemon with store := opened, versions := daemon.status.2.versions }) := by
                simp only [adopt, again, asked, position]
              exact Or.inr ⟨opened, _, _, rfl, failed, rfl, Or.inl ⟨failure, rfl, rfl, rfl⟩⟩
          | ok status =>
              cases recorded : (opened.headed status.localHash).1 with
              | error failure =>
                  have failed : daemon.adopt now before = (.error (.store failure),
                      { daemon with store := (opened.headed status.localHash).2, versions := daemon.status.2.versions }) := by
                    simp only [adopt, again, asked, position, record_head_eq, recorded, Except.mapError]
                  exact Or.inr ⟨opened, _, _, rfl, failed, rfl, Or.inr ⟨status, rfl, rfl, Or.inl ⟨failure, rfl⟩⟩⟩
              | ok _ =>
                  obtain ⟨answer, last, reloaded, store, versions, ways⟩ := reload_ways
                    { daemon with store := (opened.headed status.localHash).2, versions := daemon.status.2.versions } now before
                  have done : daemon.adopt now before = (answer, last) := by
                    simp only [adopt, again, asked, position, record_head_eq, recorded, Except.mapError, reloaded]
                  refine Or.inr ⟨opened, answer, last, rfl, done, versions, Or.inr ⟨status, rfl, store, ?_⟩⟩
                  rcases ways with failed | ⟨tree, answered, loaded⟩
                  · exact Or.inl failed
                  · exact Or.inr ⟨tree, answered, recorded, store ▸ loaded⟩

theorem pull_allowed {position : BranchStatus} (loaded : daemon.store.load = .ok before)
    (asked : daemon.status.1 = .ok position) (few : position.localHash = none → before.nodes.size ≤ 1) (now : Int) :
    daemon.pull now = followed (fun daemon => daemon.fetch) (fun _ daemon => daemon.adopt now before)
      daemon.status.2 := by
  rw [pull_eq daemon loaded, pullFrom, followed]
  cases answer : daemon.status with
  | mk outcome next =>
      rw [answer] at asked
      cases asked
      apply if_neg
      rw [Bool.and_eq_true, decide_eq_true_eq, Option.isNone_iff_eq_none]
      rintro ⟨unborn, many⟩
      exact Nat.not_lt_of_le (few unborn) many

theorem pull_adopts {position : BranchStatus} {files : Files ω} {versions : σ} (loaded : daemon.store.load = .ok before)
    (asked : daemon.status.1 = .ok position) (few : position.localHash = none → before.nodes.size ≤ 1)
    (taken : daemon.control.pull daemon.status.2.versions daemon.store.allFiles daemon.branch = (.ok files, versions))
    (now : Int) :
    daemon.pull now = adopt { daemon with store := daemon.store.withFiles files, versions } now before := by
  have again : daemon.status.2.control.pull daemon.status.2.versions daemon.status.2.store.allFiles
      daemon.status.2.branch = (.ok files, versions) := taken
  rw [pull_allowed loaded asked few, followed]
  simp only [fetch, again]
  rfl

-- A pull fails before anything is taken over, or the files that were taken over are adopted.
theorem pull_ways (daemon : Daemon ω σ) (now : Int) :
    (∃ failure versions, daemon.pull now = (.error failure, { daemon with versions }) ∧
      (versions = daemon.versions ∨ versions = daemon.status.2.versions ∨
        ∃ error, daemon.control.pull daemon.status.2.versions daemon.store.allFiles daemon.branch =
          (.error error, versions))) ∨
    ∃ before position files versions, daemon.store.load = .ok before ∧ daemon.status.1 = .ok position ∧
      (position.localHash = none → before.nodes.size ≤ 1) ∧
      daemon.control.pull daemon.status.2.versions daemon.store.allFiles daemon.branch = (.ok files, versions) ∧
      daemon.pull now = adopt { daemon with store := daemon.store.withFiles files, versions } now before := by
  cases loaded : daemon.store.load with
  | error failure =>
      refine Or.inl ⟨.store failure, daemon.versions, ?_, Or.inl rfl⟩
      simp only [pull, tree, loaded]
      rfl
  | ok before =>
      cases asked : daemon.status.1 with
      | error failure =>
          refine Or.inl ⟨failure, daemon.status.2.versions, ?_, Or.inr (Or.inl rfl)⟩
          have answer : daemon.status = (.error failure, daemon.status.2) := Prod.ext asked rfl
          rw [pull_eq daemon loaded, pullFrom, followed, answer]
          rfl
      | ok position =>
          by_cases few : position.localHash = none → before.nodes.size ≤ 1
          · cases taken : daemon.control.pull daemon.status.2.versions daemon.store.allFiles daemon.branch with
            | mk outcome versions =>
                cases outcome with
                | error failure =>
                    refine Or.inl ⟨.version failure, versions, ?_, Or.inr (Or.inr ⟨failure, rfl⟩)⟩
                    have again : daemon.status.2.control.pull daemon.status.2.versions daemon.status.2.store.allFiles
                        daemon.status.2.branch = (.error failure, versions) := taken
                    rw [pull_allowed loaded asked few, followed]
                    simp only [fetch, again]
                    rfl
                | ok files =>
                    exact Or.inr ⟨before, position, files, versions, rfl, rfl, few, rfl,
                      pull_adopts loaded asked few taken now⟩
          · obtain ⟨unborn, many⟩ := Classical.not_imp.mp few
            refine Or.inl ⟨.version .uncommittedChanges, daemon.status.2.versions, ?_, Or.inr (Or.inl rfl)⟩
            have answer : daemon.status = (.ok position, daemon.status.2) := Prod.ext asked rfl
            rw [pull_eq daemon loaded, pullFrom, followed, answer]
            apply if_pos
            rw [Bool.and_eq_true, decide_eq_true_eq, Option.isNone_iff_eq_none]
            exact ⟨unborn, Nat.lt_of_not_le many⟩

end Daemon

end Bookmarks
