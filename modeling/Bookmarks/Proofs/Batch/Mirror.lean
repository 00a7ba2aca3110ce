import Bookmarks.Proofs.Batch.Projection
import Bookmarks.Proofs.Rows.Sound

/-!
A projection and rows that show the same tree under other names. What one step does to the projection
and what one statement does to the rows keeps them alike.
-/
set_option autoImplicit false

namespace Bookmarks

open Relation (ReflTransGen)
open Projection (Listed)

variable {ω : Type} [SiblingOrd ω]

-- Up to the naming `f` the projection has the rows' kinds, parents and lists of children.
structure Mirrors (f : Equiv.Perm String) (p : Projection) (rows : Rows ω) : Prop where
  places : ∀ id, (rows.get? (f id)).map (fun row => (row.kind, row.parentId)) =
    (p.nodes.get? id).map fun place => (place.kind.name, place.parent.map f)
  lists : ∀ id, rows.childIds (f id) = (p.childrenOf id).map f

namespace Mirrors

variable {f : Equiv.Perm String} {p q : Projection} {rows after : Rows ω} {id parent other : String}

theorem row {place : Place} (mirrors : Mirrors f p rows) (found : p.nodes.get? id = some place) :
    ∃ row, rows.get? (f id) = some row ∧ row.kind = place.kind.name ∧ row.parentId = place.parent.map f := by
  have same := mirrors.places id
  rw [found] at same
  obtain ⟨row, stored, shape⟩ := Option.map_eq_some_iff.mp same
  obtain ⟨kind, above⟩ := Prod.mk.inj shape
  exact ⟨row, stored, kind, above⟩

theorem absent (mirrors : Mirrors f p rows) (missing : p.nodes.get? id = none) : rows.get? (f id) = none := by
  have same := mirrors.places id
  rw [missing] at same
  exact Option.map_eq_none_iff.mp same

theorem place_of_row (mirrors : Mirrors f p rows) {row : Row ω} (stored : rows.get? (f id) = some row) :
    ∃ place, p.nodes.get? id = some place ∧ row.kind = place.kind.name ∧ row.parentId = place.parent.map f := by
  cases found : p.nodes.get? id with
  | none =>
      rw [mirrors.absent found] at stored
      cases stored
  | some place =>
      obtain ⟨same, storedSame, kind, above⟩ := mirrors.row found
      rw [stored] at storedSame
      rw [← Option.some.inj storedSame] at kind above
      exact ⟨place, rfl, kind, above⟩

theorem under_iff (mirrors : Mirrors f p rows) : rows.Under (f id) (f parent) ↔ p.Under id parent := by
  unfold Rows.Under Projection.Under Projection.parentOf
  constructor
  · rintro ⟨row, stored, below⟩
    obtain ⟨place, found, _, above⟩ := mirrors.place_of_row stored
    rw [below] at above
    obtain ⟨upper, isParent, same⟩ := Option.map_eq_some_iff.mp above.symm
    rw [found, Option.bind_some, isParent, f.injective same]
  · intro step
    obtain ⟨place, found, above⟩ := Option.bind_eq_some_iff.mp step
    obtain ⟨row, stored, _, below⟩ := mirrors.row found
    exact ⟨row, stored, by rw [below, above, Option.map_some]⟩

theorem path_iff (mirrors : Mirrors f p rows) :
    ReflTransGen (Rows.Under rows) (f id) (f parent) ↔ ReflTransGen (Projection.Under p) id parent :=
  reaches_renamed f fun _ _ => mirrors.under_iff

theorem listed_iff (mirrors : Mirrors f p rows) : id ∈ p.childrenOf parent ↔ p.Under id parent := by
  rw [← mirrors.under_iff, ← List.mem_map_of_injective f.injective, ← mirrors.lists]
  exact Rows.mem_child_ids

theorem parent_of_listed (mirrors : Mirrors f p rows) :
    ∀ other, id ∈ p.childrenOf other → p.parentOf id = some other :=
  fun _ member => mirrors.listed_iff.mp member

theorem listed_path_iff (mirrors : Mirrors f p rows) :
    ReflTransGen (Listed p.children) id other ↔ ReflTransGen (Rows.Under rows) (f id) (f other) := by
  have same : Listed p.children = p.Under := by
    funext a b
    exact propext mirrors.listed_iff
  rw [same, mirrors.path_iff]

-- A row and a node that are put at the same place.
variable [LinearOrder ω] [AscendingOrd ω]

theorem place (mirrors : Mirrors f p rows) {kind : Kind} {index : Option Int} {ord : ω} {row : Row ω}
    (allocated : Rows.Allocated rows (f parent) index (some (f id)) ord after)
    (below : row.parentId = some (f parent)) (value : row.ord = ord) (sameKind : row.kind = kind.name)
    (nodes : ∀ other, q.nodes.get? other = if id = other then some ⟨kind, some parent⟩ else p.nodes.get? other)
    (children : ∀ other, q.childrenOf other =
      if other = parent then
        ((p.childrenOf parent).filter (· != id)).insertIdx
          (Order.insertionPosition ((p.childrenOf parent).filter (· != id)).length index) id
      else (p.childrenOf other).filter (· != id)) :
    Mirrors f q (after.insert (f id) row) := by
  refine ⟨?places, ?lists⟩
  case places =>
    intro other
    rw [nodes other]
    by_cases same : id = other
    · subst same
      simp [Keyed.get?_insert, sameKind, below]
    · have different : f other ≠ f id := fun equal => same (f.injective equal).symm
      rw [if_neg same, ← mirrors.places other]
      cases stored : rows.get? (f other) with
      | none => simp [Keyed.get?_insert, different.symm, allocated.get?_eq_none stored]
      | some old =>
          obtain ⟨changed, found, _⟩ := Rows.get?_place row allocated.toReordered different stored
          simp [found]
  case lists =>
    intro other
    rw [Rows.child_ids_place allocated below value, children other, mirrors.lists, mirrors.lists,
      filter_map_names, filter_map_names]
    by_cases here : other = parent
    · subst here
      rw [if_pos rfl, if_pos rfl, List.map_insertIdx, List.length_map]
    · have different : f other ≠ f parent := fun same => here (f.injective same)
      rw [if_neg different, if_neg here]

-- A node and a row that are removed with everything below them.
theorem remove (mirrors : Mirrors f p rows) (present : rows.contains (f id) = true) :
    Mirrors f (p.removeSubtree id) (rows.removeAll [f id]) := by
  have doomed_iff : ∀ other, Rows.Doomed rows [f id] (f other) ↔ ReflTransGen (Listed p.children) other id := by
    intro other
    rw [Rows.doomed_one_iff, mirrors.listed_path_iff]
    exact and_iff_right present
  refine ⟨?places, ?lists⟩
  case places =>
    intro other
    obtain ⟨gone, kept⟩ := Rows.get?_removeAll rows [f id] (f other)
    by_cases lost : ReflTransGen (Listed p.children) other id
    · obtain ⟨node, _⟩ := Projection.removeSubtree_lost mirrors.parent_of_listed lost
      rw [gone ((doomed_iff other).mpr lost), node]
      rfl
    · obtain ⟨node, _⟩ := Projection.removeSubtree_kept mirrors.parent_of_listed lost
      rw [kept fun doomed => lost ((doomed_iff other).mp doomed), node]
      exact mirrors.places other
  case lists =>
    intro other
    obtain ⟨gone, kept⟩ := Rows.child_ids_remove present (f other)
    by_cases lost : ReflTransGen (Listed p.children) other id
    · obtain ⟨_, list⟩ := Projection.removeSubtree_lost mirrors.parent_of_listed lost
      rw [gone ((doomed_iff other).mpr lost), list]
      rfl
    · obtain ⟨_, list⟩ := Projection.removeSubtree_kept mirrors.parent_of_listed lost
      rw [kept fun doomed => lost ((doomed_iff other).mp doomed), list, mirrors.lists]
      exact filter_map_names f (p.childrenOf other) id

-- A row of which only the title, the address or the time changes.
theorem change (mirrors : Mirrors f p rows) {change : Row ω → Row ω}
    (retains : ∀ old, Rows.Retains old (change old)) (changed : String) :
    Mirrors f p (rows.modify changed change) := by
  refine ⟨?places, ?lists⟩
  case places =>
    intro other
    rw [← mirrors.places other]
    cases stored : rows.get? (f other) with
    | none =>
        rw [Keyed.get?_modify]
        by_cases same : changed = f other <;> simp [same, stored]
    | some old =>
        obtain ⟨new, found, same⟩ := Rows.get?_of_modify changed retains stored
        simp [found, same.kind, same.parentId]
  case lists =>
    intro other
    rw [← mirrors.lists other, Rows.childIds, Rows.siblings_modify retains]
    rfl

end Mirrors

end Bookmarks
