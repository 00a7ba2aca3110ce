import Bookmarks.Proofs.Batch.Arranged

/-!
The search for an ancestor as a loop that counts its steps and gives up when it has counted more of them than there
are nodes. It ends for every projection, also where parents are missing or go round in a circle, with at most one look
more than there are nodes, and gives up only on a way that never ends (`ancestor_search_exact`). So where no node is
above itself, a move is refused as a cycle only if it would make one.
-/
set_option autoImplicit false

namespace Bookmarks.Projection

open Relation (ReflTransGen TransGen)

variable {p : Projection} {id parent ancestor candidate : String}

inductive Ending where
  | top
  | met
  | gaveUp
deriving DecidableEq

/-- The search from where it is, with the steps counted so far: at how many nodes it looks and how it ends. -/
inductive Ascent (p : Projection) (ancestor : String) : Nat → Option String → Nat → Ending → Prop
  | top (counted : Nat) : Ascent p ancestor counted none 0 .top
  | met (counted : Nat) : Ascent p ancestor counted (some ancestor) 1 .met
  | gaveUp (counted : Nat) (id : String) (other : id ≠ ancestor) (exceeded : p.nodes.size < counted + 1) :
      Ascent p ancestor counted (some id) 1 .gaveUp
  | further (counted : Nat) (id : String) (looks : Nat) (ending : Ending) (other : id ≠ ancestor)
      (within : counted + 1 ≤ p.nodes.size) (rest : Ascent p ancestor (counted + 1) (p.parentOf id) looks ending) :
      Ascent p ancestor counted (some id) (looks + 1) ending

-- The search ends, and what is left of the bound on its steps decides as the search does.
theorem ascent_ends (ancestor : String) (start : Option String) {counted : Nat} (within : counted ≤ p.nodes.size) :
    ∃ looks ending, p.Ascent ancestor counted start looks ending ∧ counted + looks ≤ p.nodes.size + 1 ∧
      (p.meets ancestor (p.nodes.size - counted) start = true ↔ ending ≠ .top) := by
  generalize room : p.nodes.size - counted = left
  induction left generalizing counted start with
  | zero =>
      cases start with
      | none => exact ⟨0, .top, .top counted, by omega, by simp [meets]⟩
      | some id =>
          by_cases same : id = ancestor
          · subst same
            exact ⟨1, .met, .met counted, by omega, by simp [meets]⟩
          · exact ⟨1, .gaveUp, .gaveUp counted id same (by omega), by omega, by simp [meets]⟩
  | succ left ih =>
      cases start with
      | none => exact ⟨0, .top, .top counted, by omega, by simp [meets]⟩
      | some id =>
          by_cases same : id = ancestor
          · subst same
            exact ⟨1, .met, .met counted, by omega, by simp [meets]⟩
          · have more : counted + 1 ≤ p.nodes.size := by omega
            obtain ⟨looks, ending, rest, bound, verdict⟩ := ih (p.parentOf id) more (by omega)
            refine ⟨looks + 1, ending, .further counted id looks ending same more rest, by omega, ?_⟩
            rw [meets, if_neg same]
            exact verdict

-- A search that gives up has come as far as the bound allows.
theorem Ascent.gave_up {counted looks : Nat} {start : Option String}
    (search : p.Ascent ancestor counted start looks .gaveUp)
    (within : counted ≤ p.nodes.size) : start.bind (p.above (p.nodes.size - counted)) ≠ none := by
  generalize given : Ending.gaveUp = ending at search
  induction search with
  | top counted => cases given
  | met counted => cases given
  | gaveUp counted id other exceeded =>
      have spent : p.nodes.size - counted = 0 := by omega
      rw [spent]
      exact Option.some_ne_none id
  | further counted id looks ending other more rest ih =>
      have left : p.nodes.size - counted = (p.nodes.size - (counted + 1)) + 1 := by omega
      rw [left, Option.bind_some, above]
      exact ih more given

theorem Ascent.not_gave_up {looks : Nat} {ending : Ending} (acyclic : p.Acyclic)
    (search : p.Ascent ancestor 0 (p.parentOf candidate) looks ending) : ending ≠ .gaveUp := by
  rintro rfl
  have long := search.gave_up (Nat.zero_le _)
  rw [Nat.sub_zero] at long
  exact long (above_size_ends acyclic candidate)

theorem check_index_not_cycle {index : Option Int} {moving : Option String} {above below : String} :
    p.checkIndex parent index moving ≠ .error (.cycleDetected below above) := by
  unfold checkIndex
  intro refused
  split at refused
  · cases refused
  · simp only at refused
    split at refused <;> cases refused

theorem check_parent_not_cycle {above below : String} : p.checkParent parent ≠ .error (.cycleDetected below above) := by
  unfold checkParent
  intro refused
  split at refused <;> cases refused

theorem check_mutable_not_cycle {above below : String} : p.checkMutable id ≠ .error (.cycleDetected below above) := by
  unfold checkMutable
  intro refused
  split at refused
  · cases refused
  · split at refused <;> cases refused

theorem move_refused_iff {index : Option Int} :
    p.apply (.moveNode id parent index) = .error (.cycleDetected id parent) ↔
      p.nodes.contains id = true ∧ id ≠ rootId ∧ (parent = id ∨ p.isDescendant parent id = true) := by
  have checked : p.apply (.moveNode id parent index) = .error (.cycleDetected id parent) ↔
      ∃ place, p.checkMutable id = .ok place ∧ (parent = id ∨ p.isDescendant parent id = true) := by
    unfold apply
    rw [bind_eq_error]
    constructor
    · rintro (refused | ⟨place, mutable, refused⟩)
      · exact absurd refused check_mutable_not_cycle
      · by_cases cyclic : parent = id ∨ p.isDescendant parent id = true
        · exact ⟨place, mutable, cyclic⟩
        · rw [if_neg cyclic] at refused
          rcases bind_eq_error.mp refused with wrong | ⟨_, _, refused⟩
          · exact absurd wrong check_parent_not_cycle
          rcases bind_eq_error.mp refused with wrong | ⟨_, _, refused⟩
          · exact absurd wrong check_index_not_cycle
          · cases refused
    · rintro ⟨place, mutable, cyclic⟩
      refine Or.inr ⟨place, mutable, ?_⟩
      rw [if_pos cyclic]
      rfl
  rw [checked, Keyed.contains_iff]
  constructor
  · rintro ⟨place, mutable, cyclic⟩
    obtain ⟨found, notRoot⟩ := check_mutable_ok.mp mutable
    exact ⟨⟨place, found⟩, notRoot, cyclic⟩
  · rintro ⟨⟨place, found⟩, notRoot, cyclic⟩
    exact ⟨place, check_mutable_ok.mpr ⟨found, notRoot⟩, cyclic⟩

/-- The search ends for every projection, with at most one look more than there are nodes. It answers yes exactly if the
ancestor is on the way upwards from the candidate or that way never ends. Where no node is above itself it never gives
up: the answer is yes exactly if the ancestor is above the candidate, and a move is refused as a cycle exactly if the
new parent is the moved node or below it. -/
theorem ancestor_search_exact (p : Projection) (candidate ancestor : String) :
    (∃ looks ending, p.Ascent ancestor 0 (p.parentOf candidate) looks ending ∧ looks ≤ p.nodes.size + 1 ∧
      (p.isDescendant candidate ancestor = true ↔ ending ≠ .top)) ∧
    (p.isDescendant candidate ancestor = true ↔ TransGen p.Under candidate ancestor ∨ p.Endless candidate) ∧
    (p.Acyclic →
      (∀ looks ending, p.Ascent ancestor 0 (p.parentOf candidate) looks ending → ending ≠ .gaveUp) ∧
      (p.isDescendant candidate ancestor = true ↔ TransGen p.Under candidate ancestor) ∧
      ∀ index, p.apply (.moveNode ancestor candidate index) = .error (.cycleDetected ancestor candidate) ↔
        p.nodes.contains ancestor = true ∧ ancestor ≠ rootId ∧ ReflTransGen p.Under candidate ancestor) := by
  refine ⟨?ends, is_descendant_iff_endless, fun acyclic => ⟨?bounded, is_descendant_iff acyclic, ?moves⟩⟩
  case ends =>
    obtain ⟨looks, ending, search, bound, verdict⟩ :=
      ascent_ends ancestor (p.parentOf candidate) (Nat.zero_le p.nodes.size)
    exact ⟨looks, ending, search, by omega, verdict⟩
  case bounded =>
    intro looks ending search
    exact search.not_gave_up acyclic
  case moves =>
    intro index
    rw [move_refused_iff, is_descendant_iff acyclic, Relation.reflTransGen_iff_eq_or_transGen, eq_comm (a := ancestor)]

-- Folders, each but the first one in the one before.
def ladder : Nat → Projection × String
  | 0 => (⟨Keyed.insert ∅ rootId ⟨.folder, none⟩, ∅, 0⟩, rootId)
  | steps + 1 => (ladder steps).1.add (ladder steps).2 .folder none

theorem ladder_arranged (steps : Nat) :
    (ladder steps).1.Arranged ∧ (ladder steps).1.nodes.contains (ladder steps).2 = true := by
  induction steps with
  | zero =>
      have place : ∀ id, (ladder 0).1.nodes.get? id = if rootId = id then some ⟨.folder, none⟩ else none := by
        intro id
        rw [ladder, Keyed.get?_insert, Keyed.get?_empty]
      have top : ∀ id, (ladder 0).1.parentOf id = none := by
        intro id
        rw [parentOf, place]
        split <;> rfl
      refine ⟨⟨(place rootId).trans (if_pos rfl), ?anchored, ?listed, ?unnumbered⟩, ?there⟩
      case anchored =>
        intro id there
        rw [Keyed.contains, place] at there
        split at there
        · rename_i same
          exact same ▸ .refl
        · cases there
      case listed =>
        intro id parent
        have unlisted : (ladder 0).1.childrenOf parent = [] := rfl
        rw [unlisted, Under, top]
        simp
      case unnumbered =>
        intro number _
        rw [place, if_neg]
        intro same
        have plain : ¬ IsPending rootId := by decide
        exact plain (same ▸ pending_id_pending number)
      case there => exact Keyed.contains_iff.mpr ⟨_, (place rootId).trans (if_pos rfl)⟩
  | succ steps ih => exact ⟨ih.1.add .folder none ih.2, contains_new _ _ _ _⟩

-- The way upwards leads through all nodes. The second folder does not go below the last one, and that may go anywhere.
theorem ancestor_search_exact_ladder :
    (ladder 3).1.Acyclic ∧
      (ladder 3).1.apply (.moveNode "pending:1" "pending:3" none) = .error (.cycleDetected "pending:1" "pending:3") ∧
      (ladder 3).1.apply (.moveNode "pending:3" "root" none) ≠ .error (.cycleDetected "pending:3" "root") := by
  have arranged := (ladder_arranged 3).1
  have acyclic : (ladder 3).1.Acyclic := arranged.acyclic
  have first : (ladder 3).1.Under "pending:1" "root" := by
    unfold Under
    decide +kernel
  have second : (ladder 3).1.Under "pending:2" "pending:1" := by
    unfold Under
    decide +kernel
  have third : (ladder 3).1.Under "pending:3" "pending:2" := by
    unfold Under
    decide +kernel
  obtain ⟨_, _, moves⟩ := (ancestor_search_exact (ladder 3).1 "pending:3" "pending:1").2.2 acyclic
  obtain ⟨_, _, back⟩ := (ancestor_search_exact (ladder 3).1 "root" "pending:3").2.2 acyclic
  refine ⟨acyclic, (moves none).mpr ⟨contains_of_under first, by decide, .head third (.single second)⟩, ?_⟩
  intro refused
  obtain ⟨_, _, path⟩ := (back none).mp refused
  rcases ReflTransGen.cases_head path with same | ⟨upper, step, _⟩
  · exact absurd same (by decide)
  · exact arranged.not_under_root upper step

end Bookmarks.Projection
