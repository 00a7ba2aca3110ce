import Bookmarks.Proofs.Daemon.Reachable

/-!
A batch is applied as a whole or not at all.
-/
set_option autoImplicit false

namespace Bookmarks.Daemon

variable {ω σ : Type} [WrittenOrd ω]

/-- A batch that fails changes nothing: not the rows, the version, the export or any other file, not the
commits, not the subscribers' queues. A batch that is stored succeeds, whatever becomes of its export,
its commit and its version. -/
theorem apply_all_or_nothing (daemon : Daemon ω σ) (now : Int) (batch : List Operation) :
    (∀ failure, (daemon.apply now batch).1 = .error failure → (daemon.apply now batch).2 = daemon) ∧
    (∀ before, daemon.check batch = .ok before → (daemon.store.commit now batch).1 = .ok () →
      ∃ applied, (daemon.apply now batch).1 = .ok applied ∧
        (daemon.apply now batch).2.store.database = (daemon.store.commit now batch).2.database) := by
  rcases apply_cases daemon now batch with ⟨failure, refused, same⟩ | ⟨before, failure, _, notStored, same⟩ |
    ⟨before, after, store, _, stored, _, same⟩
  · rw [same]
    refine ⟨fun _ _ => rfl, ?_⟩
    intro before checked
    rw [refused] at checked
    cases checked
  · rw [same, notStored]
    refine ⟨fun _ _ => rfl, ?_⟩
    intro _ _ committed
    cases committed
  · rw [same, stored]
    constructor
    · intro failure failed
      cases failed
    · intro _ _ _
      exact ⟨_, rfl, (settle_keeps { daemon with store } now before after (commitMessage batch)).database⟩

-- One batch fails in its second operation, the other one is stored.
theorem apply_all_or_nothing_newcomer :
    (∃ failure, (newcomer.apply 1 [.addFolder "root" "A" none, .renameNode "pending:1" "B"]).1 = .error failure ∧
      (newcomer.apply 1 [.addFolder "root" "A" none, .renameNode "pending:1" "B"]).2 = newcomer) ∧
    ∃ applied, (newcomer.apply 1 [.addFolder "root" "A" none]).1 = .ok applied := by
  constructor
  · have failed : (newcomer.apply 1 [.addFolder "root" "A" none, .renameNode "pending:1" "B"]).1.isOk = false := by
      decide +kernel
    cases answer : (newcomer.apply 1 [.addFolder "root" "A" none, .renameNode "pending:1" "B"]).1 with
    | error failure => exact ⟨failure, rfl, (apply_all_or_nothing newcomer 1 _).1 failure answer⟩
    | ok applied =>
        rw [answer] at failed
        cases failed
  · have accepted : (newcomer.check [.addFolder "root" "A" none]).isOk = true := by decide +kernel
    cases checked : newcomer.check [.addFolder "root" "A" none] with
    | error failure =>
        rw [checked] at accepted
        cases accepted
    | ok before =>
        obtain ⟨applied, done, _⟩ := (apply_all_or_nothing newcomer 1 _).2 before checked (by decide +kernel)
        exact ⟨applied, done⟩

end Bookmarks.Daemon
