import Bookmarks.Batch.Projection
import Bookmarks.Proofs.Keyed
import Bookmarks.Proofs.Reach
import Mathlib.Data.List.InsertIdx

/-!
What the steps of a projection do to its places and to its lists of children.
-/
set_option autoImplicit false

namespace Bookmarks.Projection

open Relation (ReflTransGen)

variable {p : Projection} {id parent other : String}

-- The nodes of a tree that are listed under their ids.
theorem place_of_tree {ω : Type} {tree : Tree ω} (named : ∀ id node, tree.nodes.get? id = some node → node.id = id)
    (id : String) :
    (ofTree tree).nodes.get? id = (tree.nodes.get? id).map fun node => ⟨node.kind, node.parentId⟩ := by
  have places : (ofTree tree).nodes = Keyed.map (fun _ node => ⟨node.kind, node.parentId⟩) tree.nodes := by
    apply Keyed.of_list_eq_map
    intro id place
    simp only [Keyed.values, List.map_map, List.mem_map]
    constructor
    · rintro ⟨⟨key, node⟩, member, same⟩
      obtain ⟨rfl, rfl⟩ := Prod.mk.inj same
      have found := Keyed.get?_eq_some_iff.mpr member
      exact ⟨node, by rw [named key node found]; exact found, rfl⟩
    · rintro ⟨node, found, rfl⟩
      exact ⟨(id, node), Keyed.get?_eq_some_iff.mp found, by simp [named id node found]⟩
  rw [places, Keyed.get?_map]

theorem children_of_attach (p : Projection) (id parent : String) (index : Option Int) (other : String) :
    (p.attach id parent index).childrenOf other =
      if other = parent then
        (p.childrenOf parent).insertIdx (Order.insertionPosition (p.childrenOf parent).length index) id
      else p.childrenOf other := by
  simp only [attach, childrenOf, Keyed.get?_insert]
  by_cases same : parent = other
  · subst same
    simp
  · simp [same, Ne.symm same]

-- A list changes at most where the node is listed.
theorem children_of_detach (listed : ∀ other, id ∈ p.childrenOf other → p.parentOf id = some other) (other : String) :
    (p.detach id).childrenOf other = (p.childrenOf other).filter (· != id) := by
  have absent : p.parentOf id ≠ some other → (p.childrenOf other).filter (· != id) = p.childrenOf other := by
    intro elsewhere
    apply List.filter_eq_self.mpr
    intro child member
    have different : child ≠ id := fun same => elsewhere (listed other (same ▸ member))
    simp [different]
  unfold detach
  cases above : p.parentOf id with
  | none => exact (absent (by simp [above])).symm
  | some parent =>
      by_cases same : parent = other
      · subst same
        simp only [childrenOf, Keyed.get?_modify, if_true]
        cases p.children.get? parent <;> simp
      · rw [absent (by simp [above, same])]
        simp [childrenOf, Keyed.get?_modify, same]

theorem nodes_detach (p : Projection) (id : String) : (p.detach id).nodes = p.nodes := by
  unfold detach
  cases p.parentOf id <;> rfl

theorem pending_detach (p : Projection) (id : String) : (p.detach id).pending = p.pending := by
  unfold detach
  cases p.parentOf id <;> rfl

theorem get?_add (p : Projection) (parent : String) (kind : Kind) (index : Option Int) (other : String) :
    (p.add parent kind index).1.nodes.get? other =
      if pendingId (p.pending + 1) = other then some ⟨kind, some parent⟩ else p.nodes.get? other := by
  simp [add, attach, Keyed.get?_insert]

theorem contains_new (p : Projection) (parent : String) (kind : Kind) (index : Option Int) :
    (p.add parent kind index).1.nodes.contains (pendingId (p.pending + 1)) = true :=
  Keyed.contains_iff.mpr ⟨_, (get?_add p parent kind index _).trans (if_pos rfl)⟩

theorem children_of_add (p : Projection) (parent : String) (kind : Kind) (index : Option Int) (other : String) :
    (p.add parent kind index).1.childrenOf other =
      if other = parent then
        (p.childrenOf parent).insertIdx (Order.insertionPosition (p.childrenOf parent).length index)
          (pendingId (p.pending + 1))
      else p.childrenOf other :=
  children_of_attach { p with nodes := p.nodes.insert (pendingId (p.pending + 1)) ⟨kind, some parent⟩
                              pending := p.pending + 1 } (pendingId (p.pending + 1)) parent index other

theorem pending_add (p : Projection) (parent : String) (kind : Kind) (index : Option Int) :
    (p.add parent kind index).1.pending = p.pending + 1 := rfl

theorem get?_add_of_some {name : String} {place : Place} (parent : String) (kind : Kind) (index : Option Int)
    (fresh : p.nodes.get? (pendingId (p.pending + 1)) = none) (found : p.nodes.get? name = some place) :
    (p.add parent kind index).1.nodes.get? name = some place := by
  have different : pendingId (p.pending + 1) ≠ name := by
    rintro rfl
    rw [fresh] at found
    cases found
  rw [get?_add, if_neg different, found]

theorem get?_relink (p : Projection) (id parent : String) (index : Option Int) (other : String) :
    (p.relink id parent index).nodes.get? other =
      if id = other then (p.nodes.get? id).map fun place => { place with parent := some parent }
      else p.nodes.get? other := by
  simp [relink, attach, nodes_detach, Keyed.get?_modify]

theorem children_of_relink (listed : ∀ other, id ∈ p.childrenOf other → p.parentOf id = some other)
    (parent : String) (index : Option Int) (other : String) :
    (p.relink id parent index).childrenOf other =
      if other = parent then
        ((p.childrenOf parent).filter (· != id)).insertIdx
          (Order.insertionPosition ((p.childrenOf parent).filter (· != id)).length index) id
      else (p.childrenOf other).filter (· != id) := by
  rw [← children_of_detach listed parent, ← children_of_detach listed other]
  exact children_of_attach _ id parent index other

theorem pending_relink (p : Projection) (id parent : String) (index : Option Int) :
    (p.relink id parent index).pending = p.pending :=
  pending_detach p id

def Under (p : Projection) (child parent : String) : Prop := p.parentOf child = some parent

-- The search upwards meets whatever is above its start.
theorem not_above_of_meets {ancestor : String} {steps : Nat} {start : String}
    (missed : p.meets ancestor steps (some start) = false) :
    ¬ ReflTransGen (Under p) start ancestor := by
  induction steps generalizing start with
  | zero =>
      unfold meets at missed
      split at missed <;> cases missed
  | succ steps ih =>
      unfold meets at missed
      split at missed
      · cases missed
      · rename_i different
        intro path
        rcases ReflTransGen.cases_head path with same | ⟨upper, step, rest⟩
        · exact different same
        · have above : p.parentOf start = some upper := step
          simp only [above] at missed
          exact ih missed rest

theorem not_above_of_not_descendant {candidate ancestor : String} (different : candidate ≠ ancestor)
    (apart : p.isDescendant candidate ancestor = false) :
    ¬ ReflTransGen (Under p) candidate ancestor := by
  intro path
  rcases ReflTransGen.cases_head path with same | ⟨upper, step, rest⟩
  · exact different same
  · have above : p.parentOf candidate = some upper := step
    rw [isDescendant, above] at apart
    exact not_above_of_meets apart rest

section Subtree

variable {nodes : Keyed Place} {children : Keyed (List String)}

def Listed (children : Keyed (List String)) (child parent : String) : Prop :=
  child ∈ (children.get? parent).getD []

def Lost (children : Keyed (List String)) (ids : List String) (id : String) : Prop :=
  ∃ top, top ∈ ids ∧ ReflTransGen (Listed children) id top

theorem listed_erase : Listed (children.erase id) other parent ↔ parent ≠ id ∧ Listed children other parent := by
  unfold Listed
  rw [Keyed.get?_erase]
  by_cases same : id = parent
  · simp [same]
  · simp [same, Ne.symm same]

theorem lost_parent {below : List String} (found : children.get? id = some below) (rest : List String)
    (place : String) :
    Lost children (id :: rest) place ↔ place = id ∨ Lost (children.erase id) (below ++ rest) place := by
  have member_below : ∀ a, a ∈ below ↔ Listed children a id := fun a => by simp [Listed, found]
  refine below_start_iff (· ∈ id :: rest) (· ∈ below ++ rest)
    List.mem_cons_self ?_ ?_ ?_ ?_ ?_ place
  · intro a b step
    exact (listed_erase.mp step).2
  · intro a b step _ different
    exact listed_erase.mpr ⟨different, step⟩
  · intro a member
    rcases List.mem_append.mp member with listed | waiting
    · exact Or.inr ((member_below a).mp listed)
    · exact Or.inl (List.mem_cons_of_mem _ waiting)
  · intro a member different
    exact List.mem_append_right _ ((List.mem_cons.mp member).resolve_left different)
  · intro a step _
    exact List.mem_append_left _ ((member_below a).mpr step)

theorem lost_leaf (absent : children.get? id = none) (rest : List String) (place : String) :
    Lost children (id :: rest) place ↔ place = id ∨ Lost children rest place := by
  refine below_start_iff (· ∈ id :: rest) (· ∈ rest)
    List.mem_cons_self (fun _ _ step => step) (fun _ _ step _ _ => step) ?_ ?_ ?_ place
  · intro a waiting
    exact Or.inl (List.mem_cons_of_mem _ waiting)
  · intro a member different
    exact (List.mem_cons.mp member).resolve_left different
  · intro a step
    simp [Listed, absent] at step

-- Exactly the lost nodes are removed, with their lists, and the others stay as they are.
theorem get?_removeAll (nodes : Keyed Place) (children : Keyed (List String)) (ids : List String) (place : String) :
    (Lost children ids place →
      (removeAll nodes children ids).1.get? place = none ∧ (removeAll nodes children ids).2.get? place = none) ∧
    (¬ Lost children ids place →
      (removeAll nodes children ids).1.get? place = nodes.get? place ∧
        (removeAll nodes children ids).2.get? place = children.get? place) := by
  fun_induction removeAll nodes children ids with
  | case1 nodes children =>
      constructor
      · rintro ⟨_, member, _⟩
        cases member
      · intro _
        exact ⟨rfl, rfl⟩
  | case2 nodes children id rest below found ih =>
      have visit := lost_parent found rest place
      constructor
      · intro lost
        by_cases later : Lost (children.erase id) (below ++ rest) place
        · exact ih.1 later
        · have same := (visit.mp lost).resolve_right later
          obtain ⟨node, list⟩ := ih.2 later
          rw [node, list, Keyed.get?_erase, Keyed.get?_erase, if_pos same.symm, if_pos same.symm]
          exact ⟨rfl, rfl⟩
      · intro spared
        have different : place ≠ id := fun same => spared (visit.mpr (Or.inl same))
        obtain ⟨node, list⟩ := ih.2 fun later => spared (visit.mpr (Or.inr later))
        rw [node, list, Keyed.get?_erase, Keyed.get?_erase, if_neg different.symm, if_neg different.symm]
        exact ⟨rfl, rfl⟩
  | case3 nodes children id rest absent ih =>
      have visit := lost_leaf absent rest place
      constructor
      · intro lost
        by_cases later : Lost children rest place
        · exact ih.1 later
        · have same := (visit.mp lost).resolve_right later
          obtain ⟨node, list⟩ := ih.2 later
          rw [node, list, Keyed.get?_erase, if_pos same.symm, same]
          exact ⟨rfl, absent⟩
      · intro spared
        have different : place ≠ id := fun same => spared (visit.mpr (Or.inl same))
        obtain ⟨node, list⟩ := ih.2 fun later => spared (visit.mpr (Or.inr later))
        rw [node, list, Keyed.get?_erase, if_neg different.symm]
        exact ⟨rfl, rfl⟩

-- A path that ends in the node does not use the list that the node is taken from, as it would have
-- arrived before.
theorem path_detach (listed : ∀ other, id ∈ p.childrenOf other → p.parentOf id = some other) (place : String) :
    ReflTransGen (Listed (p.detach id).children) place id ↔ ReflTransGen (Listed p.children) place id := by
  have step_iff : ∀ a b, Listed (p.detach id).children a b ↔ a ≠ id ∧ Listed p.children a b := by
    intro a b
    have same := children_of_detach listed b
    unfold childrenOf at same
    rw [Listed, same, List.mem_filter]
    simp [Listed, and_comm]
  constructor
  · intro path
    exact ReflTransGen.mono (fun a b step => ((step_iff a b).mp step).2) _ _ path
  · intro path
    induction path using ReflTransGen.head_induction_on with
    | refl => exact .refl
    | @head lower upper step _ ih =>
        by_cases same : lower = id
        · exact same ▸ .refl
        · exact .head ((step_iff lower upper).mpr ⟨same, step⟩) ih

theorem removeSubtree_lost (listed : ∀ other, id ∈ p.childrenOf other → p.parentOf id = some other) {place : String}
    (lost : ReflTransGen (Listed p.children) place id) :
    (p.removeSubtree id).nodes.get? place = none ∧ (p.removeSubtree id).childrenOf place = [] := by
  have gone := (get?_removeAll (p.detach id).nodes (p.detach id).children [id] place).1
    ⟨id, List.mem_singleton_self id, (path_detach listed place).mpr lost⟩
  exact ⟨gone.1, by simp [childrenOf, removeSubtree, gone.2]⟩

theorem removeSubtree_kept (listed : ∀ other, id ∈ p.childrenOf other → p.parentOf id = some other) {place : String}
    (kept : ¬ ReflTransGen (Listed p.children) place id) :
    (p.removeSubtree id).nodes.get? place = p.nodes.get? place ∧
      (p.removeSubtree id).childrenOf place = (p.childrenOf place).filter (· != id) := by
  have stays := (get?_removeAll (p.detach id).nodes (p.detach id).children [id] place).2 (by
    rintro ⟨top, member, path⟩
    rw [List.mem_singleton.mp member] at path
    exact kept ((path_detach listed place).mp path))
  constructor
  · rw [← nodes_detach p id]
    exact stays.1
  · rw [← children_of_detach listed place]
    simp [childrenOf, removeSubtree, stays.2]

theorem get?_of_removeSubtree (listed : ∀ other, id ∈ p.childrenOf other → p.parentOf id = some other) {place : Place}
    (found : (p.removeSubtree id).nodes.get? other = some place) : p.nodes.get? other = some place := by
  by_cases lost : ReflTransGen (Listed p.children) other id
  · rw [(removeSubtree_lost listed lost).1] at found
    cases found
  · rw [← (removeSubtree_kept listed lost).1]
    exact found

theorem pending_removeSubtree (p : Projection) (id : String) : (p.removeSubtree id).pending = p.pending :=
  pending_detach p id

end Subtree

end Bookmarks.Projection
