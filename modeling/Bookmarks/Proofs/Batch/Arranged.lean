import Bookmarks.Proofs.Batch.Acceptance
import Bookmarks.Proofs.Batch.Ancestors
import Bookmarks.Proofs.Identity
import Bookmarks.Proofs.Order.Exact

/-!
Projections that show a tree: one root, every node on a way to it and listed exactly below its parent. All
operations that are accepted keep a projection so (`Arranged.apply`). What a removal leaves depends on the lists and
the links only, and they agree afterwards if they did before (`Linked.remove`).
-/
set_option autoImplicit false

namespace Bookmarks.Projection

open Relation (ReflTransGen TransGen)

variable {p q : Projection} {id parent : String} {kind : Kind} {index : Option Int} {operation : Operation}

-- The list of a node holds exactly those whose link leads to it.
def Linked (p : Projection) : Prop := ∀ id parent, id ∈ p.childrenOf parent ↔ p.Under id parent

namespace Linked

theorem parent_of_listed (linked : p.Linked) : ∀ other, id ∈ p.childrenOf other → p.parentOf id = some other :=
  fun other member => (linked id other).mp member

theorem listed_under (linked : p.Linked) : Listed p.children = p.Under := by
  funext a b
  exact propext (linked a b)

theorem under_remove (linked : p.Linked) {a b : String} :
    (p.removeSubtree id).Under a b ↔ ¬ ReflTransGen p.Under a id ∧ p.Under a b := by
  by_cases lost : ReflTransGen p.Under a id
  · have gone := (removeSubtree_lost linked.parent_of_listed (linked.listed_under ▸ lost)).1
    have orphan : (p.removeSubtree id).parentOf a = none := by rw [parentOf, gone, Option.bind_none]
    constructor
    · intro step
      exact absurd (step.symm.trans orphan) (Option.some_ne_none b)
    · rintro ⟨kept, _⟩
      exact absurd lost kept
  · have kept := (removeSubtree_kept linked.parent_of_listed (linked.listed_under ▸ lost)).1
    have same : (p.removeSubtree id).parentOf a = p.parentOf a := by rw [parentOf, kept, parentOf]
    exact ⟨fun step => ⟨lost, same.symm.trans step⟩, fun ⟨_, step⟩ => same.trans step⟩

theorem remove (linked : p.Linked) (id : String) : (p.removeSubtree id).Linked := by
  intro a b
  rw [linked.under_remove]
  by_cases lost : ReflTransGen p.Under b id
  · rw [(removeSubtree_lost linked.parent_of_listed (linked.listed_under ▸ lost)).2]
    simp only [List.not_mem_nil, false_iff]
    rintro ⟨kept, step⟩
    exact kept (.head step lost)
  · rw [(removeSubtree_kept linked.parent_of_listed (linked.listed_under ▸ lost)).2, List.mem_filter, linked a b,
      bne_iff_ne]
    constructor
    · rintro ⟨step, different⟩
      refine ⟨fun path => ?_, step⟩
      rcases ReflTransGen.cases_head path with same | ⟨upper, again, rest⟩
      · exact different same
      · exact lost (under_unique step again ▸ rest)
    · rintro ⟨kept, step⟩
      exact ⟨step, fun same => kept (same ▸ .refl)⟩

end Linked

structure Arranged (p : Projection) : Prop where
  rooted : p.nodes.get? rootId = some ⟨.folder, none⟩
  anchored : ∀ id, p.nodes.contains id = true → ReflTransGen p.Under id rootId
  listed : ∀ id parent, id ∈ p.childrenOf parent ↔ p.Under id parent
  unnumbered : ∀ number, p.pending < number → p.nodes.get? (pendingId number) = none

namespace Arranged

theorem not_under_root (arranged : p.Arranged) (parent : String) : ¬ p.Under rootId parent := by
  intro step
  rw [Under, parentOf, arranged.rooted] at step
  cases step

theorem acyclic (arranged : p.Arranged) : p.Acyclic := by
  intro id cycle
  obtain ⟨parent, step, _⟩ := TransGen.head'_iff.mp cycle
  have path : ReflTransGen p.Under id rootId := arranged.anchored id (contains_of_under step)
  have only : ∀ a b c, p.Under a b → p.Under a c → b = c := fun _ _ _ => under_unique
  exact acyclic_of_reaches only arranged.not_under_root path cycle

theorem parent_contained (arranged : p.Arranged) (step : p.Under id parent) : p.nodes.contains parent = true := by
  rcases ReflTransGen.cases_head (arranged.anchored id (contains_of_under step)) with same | ⟨upper, again, path⟩
  · exact absurd (same ▸ step) (arranged.not_under_root parent)
  · rw [under_unique step again]
    rcases ReflTransGen.cases_head path with top | ⟨_, above, _⟩
    · exact Keyed.contains_iff.mpr ⟨_, top ▸ arranged.rooted⟩
    · exact contains_of_under above

theorem number_absent (arranged : p.Arranged) : p.nodes.get? (pendingId (p.pending + 1)) = none :=
  arranged.unnumbered _ (Nat.lt_succ_self _)

theorem childless (arranged : p.Arranged) (absent : p.nodes.get? id = none) : p.childrenOf id = [] := by
  apply List.eq_nil_iff_forall_not_mem.mpr
  intro child member
  exact Keyed.not_contains_iff.mpr absent (arranged.parent_contained ((arranged.listed child id).mp member))

theorem under_add {a b : String} :
    (p.add parent kind index).1.Under a b ↔
      a = pendingId (p.pending + 1) ∧ b = parent ∨ a ≠ pendingId (p.pending + 1) ∧ p.Under a b := by
  unfold Under parentOf
  rw [get?_add]
  by_cases new : pendingId (p.pending + 1) = a
  · simp [← new, eq_comm]
  · simp [new, Ne.symm new]

theorem add (arranged : p.Arranged) (kind : Kind) (index : Option Int) (present : p.nodes.contains parent = true) :
    (p.add parent kind index).1.Arranged := by
  have fresh := arranged.number_absent
  have kept : ∀ {id place}, p.nodes.get? id = some place →
      (p.add parent kind index).1.nodes.get? id = some place := fun found =>
    get?_add_of_some parent kind index fresh found
  have wider : ∀ a b, p.Under a b → (p.add parent kind index).1.Under a b := by
    intro a b step
    obtain ⟨place, found, above⟩ := Option.bind_eq_some_iff.mp step
    exact Option.bind_eq_some_iff.mpr ⟨place, kept found, above⟩
  refine ⟨kept arranged.rooted, ?anchored, ?listed, ?unnumbered⟩
  case anchored =>
    intro id there
    by_cases new : id = pendingId (p.pending + 1)
    · exact .head (under_add.mpr (Or.inl ⟨new, rfl⟩))
        (ReflTransGen.mono wider _ _ (arranged.anchored parent present))
    · rw [Keyed.contains, get?_add, if_neg (Ne.symm new)] at there
      exact ReflTransGen.mono wider _ _ (arranged.anchored id there)
  case listed =>
    intro a b
    rw [children_of_add, under_add]
    have absent : ¬ p.Under (pendingId (p.pending + 1)) b := fun step =>
      Keyed.not_contains_iff.mpr fresh (contains_of_under step)
    by_cases here : b = parent
    · subst here
      rw [if_pos rfl, List.mem_insertIdx (Order.insertion_position_le _ index), arranged.listed]
      by_cases new : a = pendingId (p.pending + 1) <;> simp [new]
    · rw [if_neg here, arranged.listed]
      by_cases new : a = pendingId (p.pending + 1)
      · simp [new, here, absent]
      · simp [new]
  case unnumbered =>
    intro number above
    rw [pending_add] at above
    have different : pendingId (p.pending + 1) ≠ pendingId number := by
      intro same
      have := pending_id_injective same
      omega
    rw [get?_add, if_neg different]
    exact arranged.unnumbered number (by omega)

theorem contains_add (arranged : p.Arranged) {other : String} (kind : Kind) (index : Option Int)
    (present : p.nodes.contains other = true) : (p.add parent kind index).1.nodes.contains other = true := by
  obtain ⟨place, found⟩ := Keyed.contains_iff.mp present
  exact Keyed.contains_iff.mpr ⟨place, get?_add_of_some parent kind index arranged.number_absent found⟩

theorem add_tabs (arranged : p.Arranged) {folder : String} (present : p.nodes.contains folder = true)
    (tabs : List Tab) : (p.addTabs folder tabs).Arranged := by
  unfold addTabs
  induction tabs generalizing p with
  | nil => exact arranged
  | cons tab rest ih => exact ih (arranged.add .bookmark none present) (arranged.contains_add .bookmark none present)

theorem linked (arranged : p.Arranged) : p.Linked := arranged.listed

theorem parent_of_listed (arranged : p.Arranged) :
    ∀ other, id ∈ p.childrenOf other → p.parentOf id = some other :=
  arranged.linked.parent_of_listed

theorem under_relink {a b : String} (present : p.nodes.contains id = true) :
    (p.relink id parent index).Under a b ↔ a = id ∧ b = parent ∨ a ≠ id ∧ p.Under a b := by
  obtain ⟨place, found⟩ := Keyed.contains_iff.mp present
  unfold Under parentOf
  rw [get?_relink]
  by_cases same : id = a
  · simp [← same, found, eq_comm]
  · simp [same, Ne.symm same]

theorem relink (arranged : p.Arranged) (index : Option Int) (present : p.nodes.contains id = true)
    (notRoot : id ≠ rootId) (there : p.nodes.contains parent = true) (apart : ¬ ReflTransGen p.Under parent id) :
    (p.relink id parent index).Arranged := by
  refine ⟨?rooted, ?anchored, ?listed, ?unnumbered⟩
  case rooted =>
    rw [get?_relink, if_neg notRoot]
    exact arranged.rooted
  case anchored =>
    intro other contained
    have placed : (p.relink id parent index).Under id parent := (under_relink present).mpr (Or.inl ⟨rfl, rfl⟩)
    refine reaches_moved placed ?_ apart (arranged.anchored parent there) ?_
    · intro a b step different
      exact (under_relink present).mpr (Or.inr ⟨different, step⟩)
    · by_cases same : other = id
      · exact Or.inl same
      · rw [Keyed.contains, get?_relink, if_neg (Ne.symm same)] at contained
        exact Or.inr (arranged.anchored other contained)
  case listed =>
    intro a b
    rw [children_of_relink arranged.parent_of_listed, under_relink present]
    by_cases here : b = parent
    · subst here
      rw [if_pos rfl, List.mem_insertIdx (Order.insertion_position_le _ index), List.mem_filter, arranged.listed]
      simp [and_comm]
    · rw [if_neg here, List.mem_filter, arranged.listed]
      simp [here, and_comm]
  case unnumbered =>
    intro number above
    rw [pending_relink] at above
    rw [get?_relink]
    have absent := arranged.unnumbered number above
    split
    · rename_i same
      rw [← same] at absent
      simp [absent]
    · exact absent

theorem listed_under (arranged : p.Arranged) : Listed p.children = p.Under := arranged.linked.listed_under

theorem under_remove (arranged : p.Arranged) {a b : String} :
    (p.removeSubtree id).Under a b ↔ ¬ ReflTransGen p.Under a id ∧ p.Under a b :=
  arranged.linked.under_remove

theorem remove (arranged : p.Arranged) (notRoot : id ≠ rootId) : (p.removeSubtree id).Arranged := by
  have rootKept : ¬ ReflTransGen p.Under rootId id := by
    intro path
    rcases ReflTransGen.cases_head path with same | ⟨upper, step, _⟩
    · exact notRoot same.symm
    · exact arranged.not_under_root upper step
  refine ⟨?rooted, ?anchored, arranged.linked.remove id, ?unnumbered⟩
  case rooted =>
    rw [(removeSubtree_kept arranged.parent_of_listed (arranged.listed_under ▸ rootKept)).1]
    exact arranged.rooted
  case anchored =>
    intro other contained
    obtain ⟨place, found⟩ := Keyed.contains_iff.mp contained
    have kept : ¬ ReflTransGen p.Under other id := by
      intro lost
      rw [(removeSubtree_lost arranged.parent_of_listed (arranged.listed_under ▸ lost)).1] at found
      cases found
    have present := Keyed.contains_iff.mpr ⟨place, get?_of_removeSubtree arranged.parent_of_listed found⟩
    refine reaches_spared (fun a => ReflTransGen p.Under a id) ?_ ?_ kept (arranged.anchored other present)
    · intro a b step
      exact .head step
    · intro a b step spared
      exact arranged.under_remove.mpr ⟨spared, step⟩
  case unnumbered =>
    intro number above
    rw [pending_removeSubtree] at above
    cases found : (p.removeSubtree id).nodes.get? (pendingId number) with
    | none => rfl
    | some place =>
        have old := get?_of_removeSubtree arranged.parent_of_listed found
        rw [arranged.unnumbered number above] at old
        cases old

theorem apply (arranged : p.Arranged) (accepts : Accepts p operation q) : q.Arranged := by
  cases accepts with
  | addFolder parent title index folder fits => exact arranged.add .folder index (contains_of_folder folder)
  | addBookmark parent title url index folder fits address =>
      exact arranged.add .bookmark index (contains_of_folder folder)
  | renameNode id title place found notRoot => exact arranged
  | moveNode id parent index place found notRoot different apart folder fits =>
      exact arranged.relink index (Keyed.contains_iff.mpr ⟨place, found⟩) notRoot (contains_of_folder folder)
        (not_above_of_not_descendant different apart)
  | deleteNode id recursive place found notRoot => exact arranged.remove notRoot
  | updateBookmark id title url above found notRoot address => exact arranged
  | saveSession parent title tabs index folder fits addresses =>
      exact (arranged.add .folder index (contains_of_folder folder)).add_tabs (contains_new p parent .folder index) tabs

theorem apply_all {number : Nat} {batch : List Operation} (arranged : p.Arranged)
    (accepted : p.applyAll number batch = .ok q) : q.Arranged := by
  induction batch generalizing p number with
  | nil =>
      cases accepted
      exact arranged
  | cons operation rest ih =>
      unfold applyAll at accepted
      split at accepted
      · cases accepted
      · rename_i between applied
        exact ih (arranged.apply (accepts_of_ok applied)) accepted

end Arranged

end Bookmarks.Projection
