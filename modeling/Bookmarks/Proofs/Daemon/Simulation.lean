import Bookmarks.Proofs.Daemon.Pulls

/-!
Daemons whose version controls answer alike answer alike. One control resembles another if it gives the same answers
in states that are views of the other's states.
-/
set_option autoImplicit false

namespace Bookmarks

structure VersionControl.Resembles {κ σ τ : Type} (control : VersionControl κ σ) (other : VersionControl κ τ)
    (view : σ → τ) : Prop where
  commit : ∀ state files paths message,
    other.commit (view state) files paths message = (control.commit state files paths message).map id view
  push : ∀ state, other.push (view state) = (control.push state).map id view
  pull : ∀ state files branch, other.pull (view state) files branch = (control.pull state files branch).map id view
  status : ∀ state branch, other.status (view state) branch = (control.status state branch).map id view

namespace Daemon

open VersionControl (Resembles)

variable {ω σ τ : Type} [WrittenOrd ω] {daemon : Daemon ω σ} {other : VersionControl (Content ω) τ} {view : σ → τ}

-- The daemon with the other version control.
def viewed (daemon : Daemon ω σ) (other : VersionControl (Content ω) τ) (view : σ → τ) : Daemon ω τ :=
  ⟨daemon.store, daemon.hub, daemon.branch, other, view daemon.versions⟩

theorem settle_viewed (resembles : Resembles daemon.control other view) (now : Int) (before after : Tree ω)
    (message : String) :
    (daemon.viewed other view).settle now before after message =
      (daemon.settle now before after message).map id fun next => next.viewed other view := by
  have exported : (daemon.viewed other view).exportTree now after message =
      (daemon.exportTree now after message).map id fun next => next.viewed other view := by
    simp only [exportTree, viewed]
    cases daemon.store.writeSnapshot now after with
    | mk outcome store =>
        cases outcome with
        | error failure => rfl
        | ok _ =>
            simp only [commit, resembles.commit]
            rfl
  have recorded (daemon : Daemon ω σ) (status : CommitStatus) : (daemon.viewed other view).recordCommit after status =
      (daemon.recordCommit after status).map id fun next => next.viewed other view := by
    simp only [recordCommit, viewed]
    cases status.hash with
    | none => rfl
    | some hash =>
        simp only
        split
        · rfl
        · cases daemon.store.recordVersion hash with
          | mk outcome store => cases outcome <;> rfl
  simp only [settle, exported, Prod.map_fst, Prod.map_snd, id, recorded]
  rfl

theorem apply_viewed (resembles : Resembles daemon.control other view) (now : Int) (batch : List Operation) :
    (daemon.viewed other view).apply now batch =
      (daemon.apply now batch).map id fun next => next.viewed other view := by
  have checked : (daemon.viewed other view).check batch = daemon.check batch := rfl
  have store : (daemon.viewed other view).store = daemon.store := rfl
  simp only [apply, checked, store]
  cases daemon.check batch with
  | error failure => rfl
  | ok before =>
      cases daemon.store.apply now batch with
      | mk outcome stored =>
          cases outcome with
          | error failure => rfl
          | ok after =>
              have settled := settle_viewed (show Resembles (Daemon.control { daemon with store := stored }) other view from resembles)
                now before after (commitMessage batch)
              exact congrArg (fun answer => (Except.ok answer.1, answer.2)) settled

omit [WrittenOrd ω] in
theorem push_viewed (resembles : Resembles daemon.control other view) :
    (daemon.viewed other view).push = daemon.push.map id fun next => next.viewed other view := by
  simp only [push, viewed, resembles.push]
  rfl

omit [WrittenOrd ω] in
theorem status_viewed (resembles : Resembles daemon.control other view) :
    (daemon.viewed other view).status = daemon.status.map id fun next => next.viewed other view := by
  simp only [status, viewed, resembles.status]
  rfl

theorem adopt_viewed (resembles : Resembles daemon.control other view) (now : Int) (before : Tree ω) :
    (daemon.viewed other view).adopt now before =
      (daemon.adopt now before).map id fun next => next.viewed other view := by
  have reloaded (daemon : Daemon ω σ) : (daemon.viewed other view).reload now before =
      (daemon.reload now before).map id fun next => next.viewed other view := by
    have loaded : (daemon.viewed other view).tree = daemon.tree := rfl
    simp only [reload, loaded]
    cases daemon.tree with
    | error failure => rfl
    | ok tree =>
        simp only
        split <;> rfl
  have headed (daemon : Daemon ω σ) (status : BranchStatus) : (daemon.viewed other view).recordHead status =
      (daemon.recordHead status).map id fun next => next.viewed other view := by
    rw [record_head_eq, record_head_eq]
    rfl
  have opened : (daemon.viewed other view).reopen now = (daemon.reopen now).map id fun next => next.viewed other view := rfl
  simp only [adopt, opened]
  cases reopened : daemon.reopen now with
  | mk outcome fresh =>
      have same : fresh.control = daemon.control := (congrArg (·.2.control) reopened).symm
      cases outcome with
      | error failure => rfl
      | ok _ =>
          simp only [Prod.map_apply, id, status_viewed (same ▸ resembles : Resembles fresh.control other view)]
          cases fresh.status with
          | mk outcome asked =>
              cases outcome with
              | error failure => rfl
              | ok position =>
                  simp only [Prod.map_apply, id, headed]
                  cases asked.recordHead position with
                  | mk outcome last =>
                      cases outcome with
                      | error failure => rfl
                      | ok _ => exact reloaded last

theorem pull_viewed (resembles : Resembles daemon.control other view) (now : Int) :
    (daemon.viewed other view).pull now = (daemon.pull now).map id fun next => next.viewed other view := by
  have loaded : (daemon.viewed other view).tree = daemon.tree := rfl
  simp only [pull, loaded]
  cases daemon.tree with
  | error failure => rfl
  | ok before =>
      simp only [status_viewed resembles]
      cases asked : daemon.status with
      | mk outcome looked =>
          have same : looked.control = daemon.control := (congrArg (·.2.control) asked).symm
          have again : Resembles looked.control other view := same ▸ resembles
          cases outcome with
          | error failure => rfl
          | ok position =>
              simp only [Prod.map_apply, id]
              split
              · rfl
              · have fetched : (looked.viewed other view).fetch = looked.fetch.map id fun next => next.viewed other view := by
                  simp only [fetch, viewed, again.pull]
                  cases looked.control.pull looked.versions looked.store.allFiles looked.branch with
                  | mk outcome versions => cases outcome <;> rfl
                rw [fetched]
                cases taken : looked.fetch with
                | mk outcome last =>
                    cases outcome with
                    | error failure => rfl
                    | ok _ =>
                        have kept : looked.fetch.2.control = looked.control := by
                          unfold fetch
                          split <;> rfl
                        rw [taken] at kept
                        simp only [Prod.map_apply, id]
                        exact adopt_viewed (kept ▸ again : Resembles last.control other view) now before

end Daemon

end Bookmarks
