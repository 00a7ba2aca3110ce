import Bookmarks.Keyed
import Bookmarks.Text.Hex

/-!
Commits. A commit is made from others, its parents, which are older; one that has several parents joins
their histories. Commits are numbered in the order in which they are made; the number is what a hash
stands for.
-/
set_option autoImplicit false

namespace Bookmarks

structure Commit (κ : Type) where
  parents : List Nat
  files : Keyed κ
  message : String

structure History (κ : Type) where
  commits : List (Commit κ)
  -- A parent is older.
  older : ∀ (number : Nat) (commit : Commit κ) (parent : Nat),
    commits[number]? = some commit → parent ∈ commit.parents → parent < number

def hashOf (number : Nat) : String := String.ofList (Text.Hex.digits 40 number)

namespace History

variable {κ : Type}

def empty : History κ := ⟨[], by simp⟩

def get? (history : History κ) (number : Nat) : Option (Commit κ) := history.commits[number]?

def filesOf (history : History κ) (number : Nat) : Keyed κ :=
  ((history.get? number).map (·.files)).getD ∅

def parentsOf (history : History κ) (number : Nat) : List Nat :=
  ((history.get? number).map (·.parents)).getD []

theorem older_append (history : History κ) (latest : Commit κ)
    (parentsOlder : ∀ parent ∈ latest.parents, parent < history.commits.length)
    (number : Nat) (commit : Commit κ) (parent : Nat)
    (found : (history.commits ++ [latest])[number]? = some commit)
    (isParent : parent ∈ commit.parents) : parent < number := by
  rcases Nat.lt_trichotomy number history.commits.length with below | last | above
  · rw [List.getElem?_append_left below] at found
    exact history.older number commit parent found isParent
  · subst last
    rw [List.getElem?_concat_length, Option.some.injEq] at found
    subst found
    exact parentsOlder parent isParent
  · have none : (history.commits ++ [latest])[number]? = none := by
      apply List.getElem?_eq_none
      rw [List.length_append, List.length_singleton]
      exact above
    rw [none] at found
    cases found

-- Adds a commit; a parent that is not there is left out.
def add (history : History κ) (parents : List Nat) (files : Keyed κ) (message : String) :
    Nat × History κ :=
  let latest : Commit κ := ⟨parents.filter (· < history.commits.length), files, message⟩
  (history.commits.length,
    ⟨history.commits ++ [latest], older_append history latest fun _ kept =>
      of_decide_eq_true (List.mem_filter.1 kept).2⟩)

-- Of the numbers below a limit those that can be reached from the wanted ones, the latest first. A
-- parent is older, so that one pass downwards meets all of them.
def sweep (history : History κ) : Nat → List Nat → List Nat
  | 0, _ => []
  | limit + 1, wanted =>
    if wanted.contains limit then limit :: sweep history limit (history.parentsOf limit ++ wanted)
    else sweep history limit wanted

-- What can be reached from a commit, itself included.
def reach (history : History κ) : Option Nat → List Nat
  | none => []
  | some number => history.sweep (number + 1) [number]

-- How many commits can be reached from one commit and not from another.
def ahead (history : History κ) (head other : Option Nat) : Nat :=
  ((history.reach head).filter fun number => !(history.reach other).contains number).length

end History

end Bookmarks
