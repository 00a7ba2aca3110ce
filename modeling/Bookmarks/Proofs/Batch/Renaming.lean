import Bookmarks.Proofs.Batch.Arranged
import Bookmarks.Proofs.Outcome

/-!
Two projections that show one tree under different names. A batch that names only nodes of one name in both gets
the same verdict from both (`Renames.verdict`), however many nodes either has added before.
-/
set_option autoImplicit false

namespace Bookmarks

-- The rejection of an operation that stands behind so many others.
def Rejection.later (rejection : Rejection) (earlier : Nat) : Rejection :=
  { rejection with index := earlier + rejection.index }

namespace Projection

open Relation (ReflTransGen TransGen)

-- The verdict on a batch, without what becomes of the tree.
def verdict (p : Projection) (number : Nat) (batch : List Operation) : Except Rejection Unit :=
  (p.applyAll number batch).map fun _ => ()

theorem verdict_cons (p : Projection) (number : Nat) (operation : Operation) (rest : List Operation) :
    p.verdict number (operation :: rest) =
      match p.apply operation with
      | .error violation => .error ⟨number, operation.name, violation⟩
      | .ok next => next.verdict (number + 1) rest := by
  rw [verdict, applyAll]
  cases p.apply operation <;> rfl

-- The second projection is the first one with `f` applied to all names.
structure Renames (f : Equiv.Perm String) (p q : Projection) : Prop where
  places : ∀ id, q.nodes.get? (f id) = (p.nodes.get? id).map fun place => ⟨place.kind, place.parent.map f⟩
  lists : ∀ id, q.childrenOf (f id) = (p.childrenOf id).map f

namespace Renames

variable {f g : Equiv.Perm String} {p q : Projection} {id parent : String}

theorem found {place : Place} (renames : Renames f p q) (found : p.nodes.get? id = some place) :
    q.nodes.get? (f id) = some ⟨place.kind, place.parent.map f⟩ := by
  rw [renames.places, found, Option.map_some]

theorem contains (renames : Renames f p q) (id : String) : q.nodes.contains (f id) = p.nodes.contains id := by
  rw [Keyed.contains, renames.places, Option.isSome_map, Keyed.contains]

theorem parent_of (renames : Renames f p q) (id : String) : q.parentOf (f id) = (p.parentOf id).map f := by
  rw [parentOf, renames.places, parentOf]
  cases p.nodes.get? id <;> rfl

theorem under_iff (renames : Renames f p q) (a b : String) : q.Under (f a) (f b) ↔ p.Under a b := by
  rw [Under, renames.parent_of, Under, Option.map_eq_some_iff]
  constructor
  · rintro ⟨upper, above, same⟩
    rw [above, f.injective same]
  · intro step
    exact ⟨b, step, rfl⟩

-- Only the names of nodes matter.
theorem congr (renames : Renames f p q) (left : p.Arranged) (right : q.Arranged)
    (agree : ∀ id, p.nodes.contains id = true → g id = f id) : Renames g p q := by
  have stranger : ∀ id, p.nodes.get? id = none → q.nodes.get? (g id) = none := by
    intro id missing
    exact Keyed.not_contains_iff.mp (renamed_outside renames.contains agree (Keyed.not_contains_iff.mpr missing))
  refine ⟨fun id => ?places, fun id => ?lists⟩
  case places =>
    cases found : p.nodes.get? id with
    | none => exact stranger id found
    | some place =>
        obtain ⟨kind, above⟩ := place
        rw [agree id (Keyed.contains_iff.mpr ⟨_, found⟩), renames.found found, Option.map_some]
        cases above with
        | none => rfl
        | some upper =>
            have step : p.Under id upper := by rw [Under, parentOf, found, Option.bind_some]
            rw [Option.map_some, Option.map_some, agree upper (left.parent_contained step)]
  case lists =>
    cases found : p.nodes.get? id with
    | none => rw [left.childless found, right.childless (stranger id found), List.map_nil]
    | some place =>
        rw [agree id (Keyed.contains_iff.mpr ⟨_, found⟩), renames.lists]
        apply List.map_congr_left
        intro child member
        exact (agree child (contains_of_under ((left.listed child id).mp member))).symm

section

variable (renames : Renames f p q)
include renames

theorem sibling_count (moving : Option String) (parent : String) :
    q.siblingCount (f parent) (moving.map f) = p.siblingCount parent moving := by
  have test : ∀ child : String, (some (f child) != moving.map f) = (some child != moving) := by
    intro child
    rw [Bool.eq_iff_iff, bne_iff_ne, bne_iff_ne, some_ne_map_iff]
  rw [siblingCount, siblingCount, renames.lists, List.filter_map, List.length_map]
  congr 1
  exact List.filter_congr fun child _ => test child

theorem is_descendant (left : p.Arranged) (right : q.Arranged) (candidate ancestor : String) :
    q.isDescendant (f candidate) (f ancestor) = p.isDescendant candidate ancestor := by
  rw [Bool.eq_iff_iff, is_descendant_iff left.acyclic, is_descendant_iff right.acyclic]
  exact above_renamed f renames.under_iff

theorem check_parent (fixed : f parent = parent) : q.checkParent parent = p.checkParent parent := by
  have same := renames.places parent
  rw [fixed] at same
  rw [checkParent, checkParent, same]
  cases p.nodes.get? parent with
  | none => rfl
  | some place =>
      obtain ⟨kind, above⟩ := place
      cases kind <;> rfl

theorem check_index {moving : Option String} (fixed : f parent = parent) (still : moving.map f = moving)
    (index : Option Int) : q.checkIndex parent index moving = p.checkIndex parent index moving := by
  have count := renames.sibling_count moving parent
  rw [fixed, still] at count
  unfold checkIndex
  rw [count]

theorem check_mutable (fixed : f id = id) :
    Parallel (fun old new => new.kind = old.kind) (p.checkMutable id) (q.checkMutable id) := by
  have same := renames.places id
  rw [fixed] at same
  rw [checkMutable, checkMutable, same]
  cases p.nodes.get? id with
  | none => exact .error _
  | some place =>
      by_cases isRoot : id = rootId
      · simp only [Option.map_some, if_pos isRoot]
        exact .error _
      · simp only [Option.map_some, if_neg isRoot]
        exact .ok _ _ rfl

-- The new nodes have the names that `f` gives to each other.
theorem add (kind : Kind) (index : Option Int) (parent : String)
    (numbered : f (pendingId (p.pending + 1)) = pendingId (q.pending + 1)) :
    Renames f (p.add parent kind index).1 (q.add (f parent) kind index).1 := by
  refine ⟨fun id => ?places, fun id => ?lists⟩
  case places =>
    rw [get?_add, get?_add, ← numbered]
    by_cases new : pendingId (p.pending + 1) = id
    · rw [if_pos (congrArg f new), if_pos new]
      rfl
    · rw [if_neg (fun same => new (f.injective same)), if_neg new, renames.places]
  case lists =>
    rw [children_of_add, children_of_add, ← numbered]
    by_cases here : id = parent
    · rw [if_pos (congrArg f here), if_pos here, renames.lists, List.map_insertIdx, List.length_map]
    · rw [if_neg (fun same => here (f.injective same)), if_neg here, renames.lists]

theorem relink (left : p.Arranged) (right : q.Arranged) (id parent : String) (index : Option Int) :
    Renames f (p.relink id parent index) (q.relink (f id) (f parent) index) := by
  refine ⟨fun other => ?places, fun other => ?lists⟩
  case places =>
    rw [get?_relink, get?_relink]
    by_cases same : id = other
    · rw [if_pos (congrArg f same), if_pos same, renames.places, Option.map_map, Option.map_map]
      rfl
    · rw [if_neg (fun equal => same (f.injective equal)), if_neg same, renames.places]
  case lists =>
    rw [children_of_relink left.parent_of_listed, children_of_relink right.parent_of_listed, renames.lists,
      renames.lists, filter_map_names, filter_map_names]
    by_cases here : other = parent
    · rw [if_pos (congrArg f here), if_pos here, List.map_insertIdx, List.length_map]
    · rw [if_neg (fun same => here (f.injective same)), if_neg here]

theorem remove (left : p.Arranged) (right : q.Arranged) (id : String) :
    Renames f (p.removeSubtree id) (q.removeSubtree (f id)) := by
  have lost_iff : ∀ other, ReflTransGen (Listed q.children) (f other) (f id) ↔
      ReflTransGen (Listed p.children) other id := by
    intro other
    rw [left.listed_under, right.listed_under]
    exact reaches_renamed f renames.under_iff
  refine ⟨fun other => ?places, fun other => ?lists⟩
  case places =>
    by_cases lost : ReflTransGen (Listed p.children) other id
    · rw [(removeSubtree_lost left.parent_of_listed lost).1,
        (removeSubtree_lost right.parent_of_listed ((lost_iff other).mpr lost)).1]
      rfl
    · rw [(removeSubtree_kept left.parent_of_listed lost).1,
        (removeSubtree_kept right.parent_of_listed fun path => lost ((lost_iff other).mp path)).1, renames.places]
  case lists =>
    by_cases lost : ReflTransGen (Listed p.children) other id
    · rw [(removeSubtree_lost left.parent_of_listed lost).2,
        (removeSubtree_lost right.parent_of_listed ((lost_iff other).mpr lost)).2]
      rfl
    · rw [(removeSubtree_kept left.parent_of_listed lost).2,
        (removeSubtree_kept right.parent_of_listed fun path => lost ((lost_iff other).mp path)).2, renames.lists,
        filter_map_names]

-- The next numbers of the two may differ, so their new nodes are named after each other first.
theorem add_next (left : p.Arranged) (right : q.Arranged) (kind : Kind) (index : Option Int)
    (present : p.nodes.contains parent = true) :
    ∃ g, Renames g (p.add parent kind index).1 (q.add (f parent) kind index).1 ∧
      g (pendingId (p.pending + 1)) = pendingId (q.pending + 1) ∧
      (∀ id, p.nodes.contains id = true → g id = f id) ∧ ∀ id, ¬ IsPending id → f id = id → g id = id := by
  have self := redirect_self f (pendingId (p.pending + 1)) (pendingId (q.pending + 1))
  have agree := redirect_agrees renames.contains (Keyed.not_contains_iff.mpr left.number_absent)
    (Keyed.not_contains_iff.mpr right.number_absent)
  have added := (renames.congr left right agree).add kind index parent self
  rw [agree parent present] at added
  refine ⟨_, added, self, agree, fun id plain fixed => ?_⟩
  rw [redirect_other, fixed]
  · rintro rfl
    exact plain (pending_id_pending _)
  · intro same
    rw [← fixed, same] at plain
    exact plain (pending_id_pending _)

end

theorem add_tabs (renames : Renames f p q) (left : p.Arranged) (right : q.Arranged) {folder : String}
    (present : p.nodes.contains folder = true) (tabs : List Tab) :
    ∃ g, Renames g (p.addTabs folder tabs) (q.addTabs (f folder) tabs) ∧
      ∀ id, ¬ IsPending id → f id = id → g id = id := by
  unfold addTabs
  induction tabs generalizing f p q with
  | nil => exact ⟨f, renames, fun _ _ fixed => fixed⟩
  | cons tab rest ih =>
      have presentRight : q.nodes.contains (f folder) = true := by rw [renames.contains, present]
      obtain ⟨between, added, _, agree, fixes⟩ := renames.add_next left right .bookmark none present
      obtain ⟨g, all, later⟩ := ih added (left.add .bookmark none present) (right.add .bookmark none presentRight)
        (left.contains_add .bookmark none present)
      rw [agree folder present] at all
      exact ⟨g, all, fun id plain fixed => later id plain (fixes id plain fixed)⟩

-- An operation is refused by both for the same reason, or accepted by both, and the names go on.
theorem apply {operation : Operation} (renames : Renames f p q) (left : p.Arranged) (right : q.Arranged)
    (fixed : ∀ id ∈ operation.names, f id = id) :
    Parallel (fun p q => ∃ g, Renames g p q ∧ ∀ id, ¬ IsPending id → f id = id → g id = id)
      (p.apply operation) (q.apply operation) := by
  cases operation with
  | addFolder parent title index =>
      have same : f parent = parent := fixed parent List.mem_cons_self
      rw [Projection.apply, Projection.apply, renames.check_parent same, renames.check_index same rfl]
      refine (Parallel.refl _).bind fun _ _ ⟨_, folder⟩ => (Parallel.refl _).bind fun _ _ _ => .ok _ _ ?_
      have present := contains_of_folder (check_parent_ok.mp folder)
      obtain ⟨g, added, _, _, fixes⟩ := renames.add_next left right .folder index present
      rw [same] at added
      exact ⟨g, added, fixes⟩
  | addBookmark parent title url index =>
      have same : f parent = parent := fixed parent List.mem_cons_self
      rw [Projection.apply, Projection.apply, renames.check_parent same, renames.check_index same rfl]
      refine (Parallel.refl _).bind fun _ _ ⟨_, folder⟩ => (Parallel.refl _).bind fun _ _ _ =>
        (Parallel.refl _).bind fun _ _ _ => .ok _ _ ?_
      have present := contains_of_folder (check_parent_ok.mp folder)
      obtain ⟨g, added, _, _, fixes⟩ := renames.add_next left right .bookmark index present
      rw [same] at added
      exact ⟨g, added, fixes⟩
  | renameNode id title =>
      have same : f id = id := fixed id List.mem_cons_self
      exact (renames.check_mutable same).bind fun _ _ _ => .ok _ _ ⟨f, renames, fun _ _ still => still⟩
  | moveNode id parent index =>
      have sameId : f id = id := fixed id List.mem_cons_self
      have sameParent : f parent = parent := fixed parent (List.mem_cons_of_mem _ List.mem_cons_self)
      have descends := renames.is_descendant left right parent id
      rw [sameId, sameParent] at descends
      have placed := renames.relink left right id parent index
      rw [sameId, sameParent] at placed
      rw [Projection.apply, Projection.apply]
      refine (renames.check_mutable sameId).bind fun _ _ _ => ?_
      rw [descends]
      by_cases cycle : parent = id ∨ p.isDescendant parent id = true
      · simp only [if_pos cycle]
        exact .error _
      · have still : (some id).map f = some id := congrArg some sameId
        have counted := renames.check_index sameParent still index
        simp only [if_neg cycle, renames.check_parent sameParent, counted]
        exact (Parallel.refl _).bind fun _ _ _ => (Parallel.refl _).bind fun _ _ _ =>
          .ok _ _ ⟨f, placed, fun _ _ still => still⟩
  | deleteNode id recursive =>
      have same : f id = id := fixed id List.mem_cons_self
      have removed := renames.remove left right id
      rw [same] at removed
      exact (renames.check_mutable same).bind fun _ _ _ => .ok _ _ ⟨f, removed, fun _ _ still => still⟩
  | updateBookmark id title url =>
      have same : f id = id := fixed id List.mem_cons_self
      rw [Projection.apply, Projection.apply]
      refine (renames.check_mutable same).bind fun old new kinds => ?_
      rw [kinds]
      by_cases bookmark : old.kind = .bookmark
      · simp only [bookmark, ne_eq, not_true_eq_false, if_false]
        cases url with
        | none => exact .ok _ _ ⟨f, renames, fun _ _ still => still⟩
        | some text =>
            exact (Parallel.refl _).bind fun _ _ _ => .ok _ _ ⟨f, renames, fun _ _ still => still⟩
      · simp only [ne_eq, bookmark, not_false_eq_true, if_true]
        exact .error _
  | saveSession parent title tabs index =>
      have same : f parent = parent := fixed parent List.mem_cons_self
      rw [Projection.apply, Projection.apply, renames.check_parent same, renames.check_index same rfl]
      refine (Parallel.refl _).bind fun _ _ ⟨_, folder⟩ => (Parallel.refl _).bind fun _ _ _ =>
        (Parallel.refl _).bind fun _ _ _ => .ok _ _ ?_
      have present := contains_of_folder (check_parent_ok.mp folder)
      have presentRight : q.nodes.contains parent = true := by rw [← same, renames.contains, present]
      obtain ⟨between, added, named, _, fixes⟩ := renames.add_next left right .folder index present
      rw [same] at added
      obtain ⟨g, all, later⟩ := added.add_tabs (left.add .folder index present)
        (right.add .folder index presentRight) (contains_new p parent .folder index) tabs
      rw [named] at all
      exact ⟨g, all, fun id plain still => later id plain (fixes id plain still)⟩

-- A batch is judged alike wherever it stands, only that the rejections count the operations before it.
theorem verdict_eq {batch : List Operation} (renames : Renames f p q) (left : p.Arranged) (right : q.Arranged)
    (fixed : ∀ operation ∈ batch, ∀ id ∈ operation.names, f id = id)
    (plain : ∀ operation ∈ batch, ∀ id ∈ operation.names, ¬ IsPending id) (earlier number : Nat) :
    p.verdict (earlier + number) batch = (q.verdict number batch).mapError (·.later earlier) := by
  induction batch generalizing f p q number with
  | nil => rfl
  | cons operation rest ih =>
      rw [verdict_cons, verdict_cons]
      have outcomes := renames.apply left right (fixed operation List.mem_cons_self)
      generalize first : p.apply operation = one at outcomes ⊢
      generalize second : q.apply operation = two at outcomes ⊢
      cases outcomes with
      | error violation => rfl
      | ok next after same =>
          obtain ⟨g, renamesNext, fixes⟩ := same
          refine ih renamesNext (left.apply (accepts_of_ok first)) (right.apply (accepts_of_ok second)) ?_ ?_
            (number + 1)
          · intro other member id named
            have behind : other ∈ operation :: rest := List.mem_cons_of_mem operation member
            exact fixes id (plain other behind id named) (fixed other behind id named)
          · intro other member
            exact plain other (List.mem_cons_of_mem operation member)

end Renames

end Projection

end Bookmarks
