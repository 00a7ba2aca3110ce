import Bookmarks.Proofs.Version.Ancestry
import Bookmarks.Proofs.Version.Handling
import Bookmarks.Version.Repository

/-!
What is taken over from a remote. There are three ways in which that succeeds (`pull_cases`): the files of the
commit are checked out where there was no commit, nothing is to be done, or the commit is moved on to from an
older one. The last way leaves a file alone that is not as the older commit has it (`file_of_forward`).
-/
set_option autoImplicit false

namespace Bookmarks

namespace Repository

variable {κ : Type} {repository : Repository κ} {number : Nat}

theorem head_of_set (inUse : repository.current.isSome = true) : (repository.setHead number).head = some number := by
  unfold setHead head
  cases used : repository.current with
  | none =>
      rw [used] at inUse
      cases inUse
  | some branch => simp [Keyed.get?_insert]

-- The remote that is used and the branch that is pushed to.
def seat (repository : Repository κ) : Option String × String := (repository.origin, repository.branch)

theorem seat_of_set_head (repository : Repository κ) (number : Nat) :
    (repository.setHead number).seat = repository.seat := by
  unfold setHead
  split <;> rfl

theorem set_head_tracking (repository : Repository κ) (number : Nat) :
    (repository.setHead number).tracking = repository.tracking := by
  unfold setHead
  split <;> rfl

theorem set_head_index (repository : Repository κ) (number : Nat) :
    (repository.setHead number).index = repository.index := by
  unfold setHead
  split <;> rfl

theorem prepare_in_use (repository : Repository κ) : repository.prepare.current.isSome = true := rfl

theorem prepare_of_in_use (inUse : repository.current.isSome = true) : repository.prepare = repository := by
  obtain ⟨branch, used⟩ := Option.isSome_iff_exists.mp inUse
  unfold prepare
  rw [used, Option.getD_some, ← used]

end Repository

namespace Workplace

variable {κ δ : Type} {place next : Workplace κ} {branch path : String} {number : Nat}

-- The last commit of the branch that is worked on, or will be.
def tip (place : Workplace κ) : Option Nat := place.prepare.head

theorem prepare_prepare (place : Workplace κ) : place.prepare.prepare = place.prepare := by
  have same := Repository.prepare_of_in_use (Repository.prepare_in_use place.repository)
  simp only [prepare, same]

-- Who has a commit is prepared.
theorem prepare_of_head (hasHead : place.head = some number) : place.prepare = place := by
  have inUse : place.repository.current.isSome = true := by
    unfold head Repository.head at hasHead
    cases used : place.repository.current with
    | none => rw [used] at hasHead; cases hasHead
    | some branch => rfl
  simp only [prepare, Repository.prepare_of_in_use inUse]

theorem tip_of_head (head : place.head = some number) : place.tip = some number := by
  rw [tip, prepare_of_head head]
  exact head

-- The branch is known to stand at a commit.
def tracked (place : Workplace κ) (branch : String) (number : Nat) : Workplace κ :=
  { place with repository := { place.repository with tracking := place.repository.tracking.insert branch number } }

section

variable {handling : Handling κ δ} {directory taken : δ}

theorem check_out_ok (started : place.checkOut handling directory branch number = (.ok taken, next)) : ∃ index,
    handling.checkOut (place.depot.history.filesOf number) place.repository.index directory = .ok (index, taken) ∧
      next.head = some number ∧ next.depot = place.depot ∧ next.repository.index = index ∧
      next.repository.seat = place.repository.seat ∧ next.repository.tracking = place.repository.tracking := by
  unfold checkOut at started
  split at started
  · cases started
  · rename_i index directory treated
    cases started
    refine ⟨index, treated, ?_, rfl, rfl, rfl, rfl⟩
    simp [head, Repository.head, Keyed.get?_insert]

theorem check_out_error {failure : VersionError}
    (failed : place.checkOut handling directory branch number = (.error failure, next)) :
    next = place ∧ ∃ printed,
      handling.checkOut (place.depot.history.filesOf number) place.repository.index directory = .error printed ∧
      failure = Repository.failure ["checkout", "-q", "-f", "-B", branch, remoteRef branch] printed := by
  unfold checkOut at failed
  split at failed
  · rename_i printed treated
    cases failed
    exact ⟨rfl, printed, treated, rfl⟩
  · cases failed

theorem forward_ok (moved : place.forwardTo handling directory branch number = (.ok taken, next)) : ∃ index,
    handling.forward place.headFiles (place.depot.history.filesOf number) place.repository.index directory =
        .ok (index, taken) ∧
      (place.repository.current.isSome = true → next.head = some number) ∧ next.depot = place.depot ∧
      next.repository.index = index ∧ next.repository.seat = place.repository.seat ∧
      next.repository.tracking = place.repository.tracking := by
  unfold forwardTo at moved
  split at moved
  · cases moved
  · rename_i index directory treated
    cases moved
    exact ⟨index, treated, fun inUse => Repository.head_of_set inUse, rfl, Repository.set_head_index _ _,
      Repository.seat_of_set_head _ _, Repository.set_head_tracking _ _⟩

theorem forward_error {failure : VersionError}
    (failed : place.forwardTo handling directory branch number = (.error failure, next)) :
    next = place ∧ ∃ printed,
      handling.forward place.headFiles (place.depot.history.filesOf number) place.repository.index directory = .error printed ∧
      failure = mergeFailure branch printed := by
  unfold forwardTo at failed
  split at failed
  · rename_i printed treated
    cases failed
    exact ⟨rfl, printed, treated, rfl⟩
  · cases failed

-- Where no commit is ahead, a merge is never refused for its ancestry, and has nothing to do only at the commit itself.
theorem merge_of_even {last : Nat} (even : place.depot.history.ahead (some last) (some number) = 0) :
    place.mergeForward handling directory branch last number =
      if last = number then (.ok directory, place) else place.forwardTo handling directory branch number := by
  have reaches := History.ahead_eq_zero_iff_reaches.mp even
  unfold mergeForward
  by_cases same : last = number
  · subst same
    rw [if_pos (List.contains_iff_mem.mpr (History.mem_reach.mpr (.here last))), if_pos rfl]
  · have later : ¬ (place.depot.history.reach (some last)).contains number = true := by
      intro listed
      have back := History.mem_reach.mp (List.contains_iff_mem.mp listed)
      exact same (Nat.le_antisymm reaches.le back.le)
    rw [if_neg later, if_pos (List.contains_iff_mem.mpr (History.mem_reach.mpr reaches)), if_neg same]

-- What it can come to when the commit of a branch is taken over.
theorem take_over_cases {answer : Except VersionError δ}
    (done : place.takeOver handling directory branch number = (answer, next)) :
    (0 < place.depot.history.ahead place.head (some number) ∧ next = place ∧
        answer = .error (.localCommitsPresent (place.depot.history.ahead place.head (some number)))) ∨
      (place.head = none ∧ place.checkOut handling directory branch number = (answer, next)) ∨
      (place.head = some number ∧ answer = .ok directory ∧ next = place) ∨
      ∃ last, place.head = some last ∧ last ≠ number ∧ place.depot.history.Reaches number last ∧
        place.forwardTo handling directory branch number = (answer, next) := by
  unfold takeOver at done
  simp only at done
  split at done
  · rename_i ahead
    cases done
    exact Or.inl ⟨ahead, rfl, rfl⟩
  · rename_i even
    split at done
    · rename_i unborn
      exact Or.inr (Or.inl ⟨unborn, done⟩)
    · rename_i last head
      have zero := Nat.eq_zero_of_not_pos even
      rw [head] at zero
      rw [merge_of_even zero] at done
      split at done
      · rename_i same
        cases done
        exact Or.inr (Or.inr (Or.inl ⟨head.trans (congrArg some same), rfl, rfl⟩))
      · rename_i different
        exact Or.inr (Or.inr (Or.inr ⟨last, head, different, History.ahead_eq_zero_iff_reaches.mp zero, done⟩))

-- What is not taken over is refused for commits of its own, or because of the files.
theorem take_over_error {failure : VersionError}
    (failed : place.takeOver handling directory branch number = (.error failure, next)) :
    next = place ∧
      (0 < place.depot.history.ahead place.head (some number) ∧
          failure = .localCommitsPresent (place.depot.history.ahead place.head (some number)) ∨
        place.head = none ∧ (∃ printed,
          handling.checkOut (place.depot.history.filesOf number) place.repository.index directory = .error printed ∧
          failure = Repository.failure ["checkout", "-q", "-f", "-B", branch, remoteRef branch] printed) ∨
        ∃ last printed, place.head = some last ∧ last ≠ number ∧ place.depot.history.Reaches number last ∧
          handling.forward place.headFiles (place.depot.history.filesOf number) place.repository.index directory =
            .error printed ∧
          failure = mergeFailure branch printed) := by
  rcases take_over_cases failed with ⟨ahead, same, reason⟩ | ⟨unborn, started⟩ | ⟨_, impossible, _⟩ |
    ⟨last, head, different, reaches, moved⟩
  · exact ⟨same, Or.inl ⟨ahead, Except.error.inj reason⟩⟩
  · obtain ⟨same, refused⟩ := check_out_error started
    exact ⟨same, Or.inr (Or.inl ⟨unborn, refused⟩)⟩
  · cases impossible
  · obtain ⟨same, printed, refused, reason⟩ := forward_error moved
    exact ⟨same, Or.inr (Or.inr ⟨last, printed, head, different, reaches, refused, reason⟩)⟩

-- A branch that is there is fetched, and its commit is taken over.
theorem pull_of_head {remote : String} (origin : place.repository.origin = some remote)
    (there : place.depot.head? remote branch = some number) :
    place.pullWith handling directory branch =
      (place.prepare.tracked branch number).takeOver handling directory branch number := by
  have known : place.prepare.depot.head? remote branch = some number := there
  simp only [pullWith, origin, fetch, known]
  rfl

-- Otherwise the pull fails, and nothing more is known of the branch.
theorem pull_reached {answer : Except VersionError δ} (done : place.pullWith handling directory branch = (answer, next)) :
    (∃ remote number, place.repository.origin = some remote ∧ place.depot.head? remote branch = some number ∧
      (place.prepare.tracked branch number).takeOver handling directory branch number = (answer, next)) ∨
    ∃ failure, answer = .error failure ∧ (next = place ∨ next = place.prepare) := by
  cases origin : place.repository.origin with
  | none =>
      simp only [pullWith, origin] at done
      cases done
      exact Or.inr ⟨_, rfl, Or.inl rfl⟩
  | some remote =>
      cases there : place.depot.head? remote branch with
      | none =>
          have unknown : place.prepare.depot.head? remote branch = none := there
          simp only [pullWith, origin, fetch, unknown] at done
          cases done
          exact Or.inr ⟨_, rfl, Or.inr rfl⟩
      | some number => exact Or.inl ⟨remote, number, rfl, there, (pull_of_head origin there).symm.trans done⟩

-- The ways to take over the commit of a branch.
theorem pull_cases (done : place.pullWith handling directory branch = (.ok taken, next)) :
    ∃ remote number, place.repository.origin = some remote ∧ place.depot.head? remote branch = some number ∧
      ((place.prepare.head = none ∧
        (place.prepare.tracked branch number).checkOut handling directory branch number = (.ok taken, next)) ∨
      (place.prepare.head = some number ∧ taken = directory ∧ next = place.prepare.tracked branch number) ∨
      ∃ older, place.prepare.head = some older ∧ older ≠ number ∧ place.depot.history.Reaches number older ∧
        (place.prepare.tracked branch number).forwardTo handling directory branch number = (.ok taken, next)) := by
  rcases pull_reached done with ⟨remote, number, origin, there, taking⟩ | ⟨_, impossible, _⟩
  · refine ⟨remote, number, origin, there, ?_⟩
    rcases take_over_cases taking with ⟨_, _, impossible⟩ | started | ⟨same, took, unmoved⟩ | moved
    · cases impossible
    · exact Or.inl started
    · exact Or.inr (Or.inl ⟨same, Except.ok.inj took, unmoved⟩)
    · exact Or.inr (Or.inr moved)
  · cases impossible

-- What is not taken over is left as it was, but for what is known of the branch.
theorem pull_error {failure : VersionError}
    (failed : place.pullWith handling directory branch = (.error failure, next)) :
    next = place ∨ next = place.prepare ∨ ∃ number, next = place.prepare.tracked branch number := by
  rcases pull_reached failed with ⟨_, number, _, _, taking⟩ | ⟨_, _, same | prepared⟩
  · exact Or.inr (Or.inr ⟨number, (take_over_error taking).1⟩)
  · exact Or.inl same
  · exact Or.inr (Or.inl prepared)

-- The commit that was taken over is the last one then, and has the former last one among those it was made from.
theorem head_of_pull (done : place.pullWith handling directory branch = (.ok taken, next)) :
    ∃ remote number, next.head = some number ∧ place.depot.head? remote branch = some number ∧ next.depot = place.depot ∧
      ∀ older, place.prepare.head = some older → place.depot.history.Reaches number older := by
  obtain ⟨remote, number, _, there, ⟨unborn, checkedOut⟩ | ⟨same, _, rfl⟩ | ⟨older, head, _, reaches, moved⟩⟩ := pull_cases done
  · obtain ⟨_, _, moves, depot, _⟩ := check_out_ok checkedOut
    refine ⟨remote, number, moves, there, depot, ?_⟩
    intro older head
    rw [unborn] at head
    cases head
  · refine ⟨remote, number, same, there, rfl, ?_⟩
    intro older head
    rw [same] at head
    cases head
    exact .here number
  · obtain ⟨_, _, moves, depot, _⟩ := forward_ok moved
    refine ⟨remote, number, moves (Repository.prepare_in_use place.repository), there, depot, ?_⟩
    intro other otherHead
    rw [head] at otherHead
    cases otherHead
    exact reaches

theorem file_of_pull [BEq κ] {files taken : Keyed κ} (done : place.pull files branch = (.ok taken, next)) {older : Nat}
    (head : place.prepare.head = some older) (path : String) :
    taken.get? path = files.get? path ∨ files.get? path = none ∨
      (files.get? path == (place.depot.history.filesOf older).get? path) = true := by
  have former : place.prepare.headFiles = place.depot.history.filesOf older := by
    rw [headFiles, head]
    rfl
  obtain ⟨_, number, _, _, ⟨unborn, _⟩ | ⟨_, rfl, _⟩ | ⟨_, _, _, _, moved⟩⟩ := pull_cases done
  · rw [head] at unborn
    cases unborn
  · exact Or.inl rfl
  · obtain ⟨_, forward, _⟩ := forward_ok moved
    have spared := Handling.file_of_forward_plain forward path
    have same : (place.prepare.tracked branch number).headFiles = place.prepare.headFiles := rfl
    rw [same, former] at spared
    exact spared

-- A pull that stays at the same commit has nothing to take over.
theorem files_of_pull_same (done : place.pullWith handling directory branch = (.ok taken, next))
    (same : next.tip = place.tip) :
    taken = directory := by
  obtain ⟨_, number, _, _, ⟨unborn, checkedOut⟩ | ⟨_, same, _⟩ | ⟨older, head, different, _, moved⟩⟩ := pull_cases done
  · obtain ⟨_, _, last, _⟩ := check_out_ok checkedOut
    rw [tip_of_head last, tip, unborn] at same
    cases same
  · exact same
  · obtain ⟨_, _, moves, _⟩ := forward_ok moved
    rw [tip_of_head (moves (Repository.prepare_in_use place.repository)), tip, head] at same
    exact absurd (Option.some.inj same).symm different

end

end Workplace

end Bookmarks
