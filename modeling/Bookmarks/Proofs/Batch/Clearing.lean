import Bookmarks.Proofs.Batch.Ascent

/-!
The removal of a node and of what is below it, as a list of ids that wait to be removed. Whichever of them is taken
next, a removal ends after a number of steps that the lists of children bound, and always with the same projection
(`Clearing.Run.size_eq`, `Clearing.Run.final_eq`). It takes away exactly what the lists lead to from the node, and where
lists and links agree nothing that is left mentions what is gone (`subtree_removed_exactly`).
-/
set_option autoImplicit false

namespace Bookmarks.Projection

open Relation (ReflTransGen)

variable {p : Projection} {id parent place : String}

section

variable {children : Keyed (List String)} {left right : List String}

theorem lost_visit (children : Keyed (List String)) (id : String) (rest : List String) (place : String) :
    Lost children (id :: rest) place ↔
      place = id ∨ Lost (children.erase id) ((children.get? id).getD [] ++ rest) place := by
  cases found : children.get? id with
  | some below => exact lost_parent found rest place
  | none =>
      rw [Keyed.erase_absent found]
      exact lost_leaf found rest place

theorem lost_perm (same : left.Perm right) : Lost children left place ↔ Lost children right place :=
  exists_congr fun _ => and_congr_left' same.mem_iff

theorem lost_one_iff : Lost children [id] place ↔ ReflTransGen (Listed children) place id := by
  constructor
  · rintro ⟨top, member, path⟩
    rw [List.mem_singleton.mp member] at path
    exact path
  · intro path
    exact ⟨id, List.mem_singleton_self id, path⟩

end

-- How many ids there are in all lists together.
def listings (children : Keyed (List String)) : Nat := (children.values.map List.length).sum

theorem listings_erase (children : Keyed (List String)) (id : String) :
    listings children = ((children.get? id).getD []).length + listings (children.erase id) := by
  rw [listings, Keyed.sum_erase List.length children id]
  cases children.get? id <;> rfl

structure Clearing where
  nodes : Keyed Place
  children : Keyed (List String)
  waiting : List String

namespace Clearing

variable {work next last : Clearing} {count : Nat}

/-- One of the ids that wait is taken, whichever; it goes with its list, and what was in the list waits instead, in
whatever order. -/
inductive Takes : Clearing → Clearing → Prop
  | take (nodes : Keyed Place) (children : Keyed (List String)) (waiting rest next : List String) (id : String)
      (taken : waiting.Perm (id :: rest)) (added : next.Perm ((children.get? id).getD [] ++ rest)) :
      Takes ⟨nodes, children, waiting⟩ ⟨nodes.erase id, children.erase id, next⟩

-- So many ids are taken, one after another.
inductive Run : Nat → Clearing → Clearing → Prop
  | none (work : Clearing) : Run 0 work work
  | more (count : Nat) (work next last : Clearing) (first : Takes work next) (rest : Run count next last) :
      Run (count + 1) work last

-- What waits now, and what can still come to wait.
def size (work : Clearing) : Nat := work.waiting.length + listings work.children

def final (work : Clearing) : Clearing :=
  let (nodes, children) := removeAll work.nodes work.children work.waiting
  ⟨nodes, children, []⟩

theorem final_of_done (done : work.waiting = []) : work.final = work := by
  obtain ⟨nodes, children, waiting⟩ := work
  simp only at done
  subst done
  simp [final, removeAll]

theorem Takes.size_eq (step : Takes work next) : work.size = next.size + 1 := by
  cases step with
  | take nodes children waiting rest next id taken added =>
      have before := taken.length_eq
      have after := added.length_eq
      have lists := listings_erase children id
      rw [List.length_cons] at before
      rw [List.length_append] at after
      simp only [size]
      omega

-- What would be removed is the id that is taken, or would be removed after it.
theorem Takes.final_eq (step : Takes work next) : work.final = next.final := by
  cases step with
  | take nodes children waiting rest next id taken added =>
      have lookups : ∀ place,
          (removeAll nodes children waiting).1.get? place =
            (removeAll (nodes.erase id) (children.erase id) next).1.get? place ∧
          (removeAll nodes children waiting).2.get? place =
            (removeAll (nodes.erase id) (children.erase id) next).2.get? place := by
        intro place
        have visit : Lost children waiting place ↔ place = id ∨ Lost (children.erase id) next place := by
          rw [lost_perm taken, lost_perm added]
          exact lost_visit children id rest place
        obtain ⟨goneBefore, keptBefore⟩ := get?_removeAll nodes children waiting place
        obtain ⟨goneAfter, keptAfter⟩ := get?_removeAll (nodes.erase id) (children.erase id) next place
        by_cases later : Lost (children.erase id) next place
        · obtain ⟨node, list⟩ := goneBefore (visit.mpr (Or.inr later))
          rw [node, list, (goneAfter later).1, (goneAfter later).2]
          exact ⟨rfl, rfl⟩
        · obtain ⟨node, list⟩ := keptAfter later
          rw [node, list, Keyed.get?_erase, Keyed.get?_erase]
          by_cases same : place = id
          · rw [if_pos same.symm, if_pos same.symm]
            exact goneBefore (visit.mpr (Or.inl same))
          · rw [if_neg (Ne.symm same), if_neg (Ne.symm same)]
            exact keptBefore fun lost => (visit.mp lost).elim same later
      have nodesSame := Keyed.ext_get? fun place => (lookups place).1
      have childrenSame := Keyed.ext_get? fun place => (lookups place).2
      simp only [final, nodesSame, childrenSame]

theorem Run.size_eq (run : Run count work last) : work.size = last.size + count := by
  induction run with
  | none work => rfl
  | more count work next last first rest ih =>
      have step := first.size_eq
      omega

theorem Run.final_eq (run : Run count work last) : work.final = last.final := by
  induction run with
  | none work => rfl
  | more count work next last first rest ih => exact first.final_eq.trans ih

-- As long as an id waits one can be taken, and every one that is taken brings the end closer.
theorem run_to_end (work : Clearing) : ∃ count, Run count work work.final := by
  generalize room : work.size = size
  induction size using Nat.strong_induction_on generalizing work with
  | h size ih =>
      obtain ⟨nodes, children, waiting⟩ := work
      cases waiting with
      | nil =>
          rw [final_of_done rfl]
          exact ⟨0, .none _⟩
      | cons id rest =>
          have step : Takes ⟨nodes, children, id :: rest⟩
              ⟨nodes.erase id, children.erase id, (children.get? id).getD [] ++ rest⟩ :=
            .take nodes children (id :: rest) rest _ id (.refl _) (.refl _)
          have smaller := step.size_eq
          rw [room] at smaller
          obtain ⟨count, run⟩ := ih _ (Nat.lt_of_succ_le (Nat.le_of_eq smaller.symm)) _ rfl
          rw [step.final_eq]
          exact ⟨count + 1, .more count _ _ _ step run⟩

end Clearing

-- The removal of a node as it starts, when the node has been taken out of its parent's list.
def clearing (p : Projection) (id : String) : Clearing := ⟨(p.detach id).nodes, (p.detach id).children, [id]⟩

theorem clearing_final (p : Projection) (id : String) :
    (p.clearing id).final = ⟨(p.removeSubtree id).nodes, (p.removeSubtree id).children, []⟩ := rfl

theorem get?_detach (p : Projection) (id parent : String) :
    (p.detach id).children.get? parent =
      if p.parentOf id = some parent then (p.children.get? parent).map (·.filter (· != id))
      else p.children.get? parent := by
  unfold detach
  cases above : p.parentOf id with
  | none => rfl
  | some upper =>
      simp only [Keyed.get?_modify, Option.some.injEq]
      split
      · rename_i same
        rw [same]
      · rfl

/-- The removal ends for every projection: whichever id is taken next, no more are taken than the node itself and as
many as the lists hold, and when none waits the result is always the same. The nodes that go, with their lists, are
exactly those that the lists lead to from the node once it has been taken out of its parent's list; the others stay as
they are, but for that list. Where lists and links agree these are the node and what is below it by the links, and no
list or link that is left mentions any of them. -/
theorem subtree_removed_exactly (p : Projection) (id : String) :
    ((∃ count, Clearing.Run count (p.clearing id) ⟨(p.removeSubtree id).nodes, (p.removeSubtree id).children, []⟩) ∧
      ∀ count work, Clearing.Run count (p.clearing id) work → count ≤ 1 + listings (p.detach id).children ∧
        (work.waiting = [] → work = ⟨(p.removeSubtree id).nodes, (p.removeSubtree id).children, []⟩)) ∧
    (∀ place, ReflTransGen (Listed (p.detach id).children) place id →
      (p.removeSubtree id).nodes.get? place = none ∧ (p.removeSubtree id).children.get? place = none) ∧
    (∀ place, ¬ ReflTransGen (Listed (p.detach id).children) place id →
      (p.removeSubtree id).nodes.get? place = p.nodes.get? place ∧
      (p.removeSubtree id).children.get? place =
        if p.parentOf id = some place then (p.children.get? place).map (·.filter (· != id))
        else p.children.get? place) ∧
    (p.Linked →
      (∀ place, ReflTransGen (Listed (p.detach id).children) place id ↔ ReflTransGen p.Under place id) ∧
      ∀ place, ReflTransGen p.Under place id → ∀ other, place ∉ (p.removeSubtree id).childrenOf other ∧
        ¬ (p.removeSubtree id).Under other place) := by
  refine ⟨⟨?ends, ?bounded⟩, ?gone, ?kept, fun linked => ⟨?below, ?forgotten⟩⟩
  case ends => exact Clearing.run_to_end (p.clearing id)
  case bounded =>
    intro count work run
    have sizes := run.size_eq
    have start : (p.clearing id).size = 1 + listings (p.detach id).children := rfl
    refine ⟨by omega, fun done => ?_⟩
    rw [← clearing_final, run.final_eq, Clearing.final_of_done done]
  case gone =>
    intro place path
    exact (get?_removeAll (p.detach id).nodes (p.detach id).children [id] place).1 (lost_one_iff.mpr path)
  case kept =>
    intro place apart
    rw [← get?_detach, ← nodes_detach p id]
    exact (get?_removeAll (p.detach id).nodes (p.detach id).children [id] place).2 (apart ∘ lost_one_iff.mp)
  case below =>
    intro place
    rw [path_detach linked.parent_of_listed, linked.listed_under]
  case forgotten =>
    intro place path other
    rw [(linked.remove id) place other, linked.under_remove, linked.under_remove]
    exact ⟨fun ⟨spared, _⟩ => spared path, fun ⟨spared, step⟩ => spared (.head step path)⟩

-- Of three folders, each in the one before, the second goes with the third.
theorem subtree_removed_exactly_ladder :
    (ladder 3).1.Linked ∧ ((ladder 3).1.removeSubtree "pending:2").nodes.get? "pending:3" = none ∧
      "pending:2" ∉ ((ladder 3).1.removeSubtree "pending:2").childrenOf "pending:1" := by
  have linked : (ladder 3).1.Linked := (ladder_arranged 3).1.linked
  have third : (ladder 3).1.Under "pending:3" "pending:2" := by
    unfold Under
    decide +kernel
  obtain ⟨_, gone, _, agreed⟩ := subtree_removed_exactly (ladder 3).1 "pending:2"
  obtain ⟨below, forgotten⟩ := agreed linked
  exact ⟨linked, (gone "pending:3" ((below "pending:3").mpr (.single third))).1, (forgotten "pending:2" .refl "pending:1").1⟩

end Bookmarks.Projection
