import Bookmarks.Proofs.Order.Exact
import Bookmarks.Proofs.Outline.Rules
import Mathlib.Data.List.InsertIdx
import Mathlib.Logic.Relation

/-!
Tables of kinds and of lists of children, and the trees that they draw. What is found in a drawing is what
the tables hold, and a change of the tables is a change of the drawing.
-/
set_option autoImplicit false

namespace Bookmarks

open Relation (ReflTransGen)

-- A tree in tables. Hidden ids are not shown in a drawing.
structure Layout where
  hidden : String → Bool
  kindOf : String → Option Kind
  childrenOf : String → List String

namespace Layout

def label (layout : Layout) (id : String) : Option String := if layout.hidden id then none else some id

mutual

inductive Draws (layout : Layout) : String → Outline → Prop
  | node (id : String) (kind : Kind) (children : List Outline) (known : layout.kindOf id = some kind)
      (lower : DrawsAll layout (layout.childrenOf id) children) :
      Draws layout id (.node (layout.label id) kind children)

inductive DrawsAll (layout : Layout) : List String → List Outline → Prop
  | nil : DrawsAll layout [] []
  | cons (id : String) (outline : Outline) (ids : List String) (outlines : List Outline)
      (first : Draws layout id outline) (rest : DrawsAll layout ids outlines) :
      DrawsAll layout (id :: ids) (outline :: outlines)

end

def Below (layout : Layout) (child parent : String) : Prop := child ∈ layout.childrenOf parent

variable {layout old new : Layout} {name parent : String} {found : Outline}

theorem label_eq_some {id : String} : layout.label id = some name ↔ layout.hidden id = false ∧ id = name := by
  unfold label
  cases layout.hidden id <;> simp

theorem Draws.name_eq {id : String} {outline : Outline} (drawn : layout.Draws id outline) : outline.name =
    layout.label id := by
  cases drawn
  rfl

theorem Draws.kind_eq {id : String} {outline : Outline} (drawn : layout.Draws id outline) : layout.kindOf id =
    some outline.kind := by
  cases drawn with
  | node _ _ _ known _ => exact known

theorem Draws.all {id : String} {outline : Outline} (drawn : layout.Draws id outline) : layout.DrawsAll
    (layout.childrenOf id) outline.children := by
  cases drawn with
  | node _ _ _ _ lower => exact lower

namespace DrawsAll

theorem length_eq {ids : List String} {outlines : List Outline} (drawn : layout.DrawsAll ids outlines) :
    outlines.length = ids.length := by
  cases drawn with
  | nil => rfl
  | cons id outline ids outlines _ rest => rw [List.length_cons, List.length_cons, length_eq rest]

theorem insert {id : String} {outline : Outline} {ids : List String} {outlines : List Outline}
    (drawn : layout.DrawsAll ids outlines) (first : layout.Draws id outline) (position : Nat) :
    layout.DrawsAll (ids.insertIdx position id) (outlines.insertIdx position outline) := by
  cases position with
  | zero => exact .cons id outline ids outlines first drawn
  | succ position =>
      cases drawn with
      | nil => exact .nil
      | cons head top ids outlines here rest => exact .cons head top _ _ here (insert rest first position)

theorem without {id : String} {ids : List String} {outlines : List Outline} (drawn : layout.DrawsAll ids outlines)
    (shown : layout.hidden id = false) :
    layout.DrawsAll (ids.filter (· != id)) (outlines.filter fun child => child.name ≠ some id) := by
  cases drawn with
  | nil => exact .nil
  | cons head top ids outlines here rest =>
      have others := without rest shown
      have label : top.name = layout.label head := here.name_eq
      by_cases same : head = id
      · have named : top.name = some id := label.trans (label_eq_some.mpr ⟨same ▸ shown, same⟩)
        simpa [same, named] using others
      · have named : top.name ≠ some id := fun equal => same (label_eq_some.mp (label.symm.trans equal)).2
        simpa [same, named] using DrawsAll.cons head top _ _ here others

end DrawsAll

mutual

theorem Draws.of_found {id : String} {outline : Outline} (drawn : layout.Draws id outline)
    (search : outline.find? name = some found) :
    layout.Draws name found ∧ ReflTransGen layout.Below name id := by
  cases drawn with
  | node _ kind children known lower =>
      rw [Outline.find?] at search
      split at search
      · rename_i here
        rw [← (label_eq_some.mp here).2, ← Option.some.inj search]
        exact ⟨.node id kind children known lower, .refl⟩
      · obtain ⟨drawn, child, member, path⟩ := lower.of_found search
        exact ⟨drawn, path.tail member⟩

theorem DrawsAll.of_found {ids : List String} {outlines : List Outline} (drawn : layout.DrawsAll ids outlines)
    (search : Outline.findAmong? name outlines = some found) :
    layout.Draws name found ∧ ∃ id, id ∈ ids ∧ ReflTransGen layout.Below name id := by
  cases drawn with
  | nil => cases search
  | cons id outline ids outlines first rest =>
      rw [Outline.findAmong?, Option.or_eq_some_iff] at search
      rcases search with here | ⟨_, later⟩
      · obtain ⟨drawn, path⟩ := first.of_found here
        exact ⟨drawn, id, List.mem_cons_self, path⟩
      · obtain ⟨drawn, child, member, path⟩ := rest.of_found later
        exact ⟨drawn, child, List.mem_cons_of_mem _ member, path⟩

end

theorem found_among (outlines : List Outline) (name : String) :
    (Outline.findAmong? name outlines).isSome = outlines.any fun outline => (outline.find? name).isSome := by
  induction outlines with
  | nil => rfl
  | cons outline rest ih => rw [Outline.findAmong?, Option.isSome_or, ih, List.any_cons]

theorem DrawsAll.drawn {id : String} {ids : List String} {outlines : List Outline}
    (drawn : layout.DrawsAll ids outlines) (member : id ∈ ids) :
    ∃ outline ∈ outlines, layout.Draws id outline := by
  cases drawn with
  | nil => cases member
  | cons head top ids outlines first rest =>
      rcases List.mem_cons.mp member with rfl | later
      · exact ⟨top, List.mem_cons_self, first⟩
      · obtain ⟨outline, among, drawn⟩ := rest.drawn later
        exact ⟨outline, List.mem_cons_of_mem _ among, drawn⟩

-- The way from the node up to the top of the drawing is the way down to it.
theorem Draws.find_of_path {id : String} {outline : Outline} (drawn : layout.Draws id outline)
    (path : ReflTransGen layout.Below name id)
    (shown : layout.hidden name = false) : (outline.find? name).isSome = true := by
  induction path generalizing outline with
  | refl =>
      cases drawn
      rw [Outline.find?, if_pos (label_eq_some.mpr ⟨shown, rfl⟩)]
      rfl
  | tail _ member ih =>
      obtain ⟨child, among, lower⟩ := drawn.all.drawn member
      have deeper : (Outline.findAmong? name outline.children).isSome = true := by
        rw [found_among]
        exact List.any_eq_true.mpr ⟨child, among, ih lower⟩
      cases drawn
      rw [Outline.find?]
      split
      · rfl
      · exact deeper

theorem Draws.find_iff {id : String} {outline : Outline} (drawn : layout.Draws id outline)
    (shown : layout.hidden name = false) :
    (outline.find? name).isSome = true ↔ ReflTransGen layout.Below name id := by
  constructor
  · intro search
    obtain ⟨found, there⟩ := Option.isSome_iff_exists.mp search
    exact (drawn.of_found there).2
  · intro path
    exact drawn.find_of_path path shown

section Changes

-- With a node of the region, all that are below it belong to it, one of them apart.
structure Spreads (layout : Layout) (region : String → Prop) (left : Option String) : Prop where
  down : ∀ id child, region id → layout.Below child id → some child ≠ left → region child

-- What a node is does not change in the region.
structure Keeps (old new : Layout) (region : String → Prop) : Prop where
  labels : ∀ id, region id → new.label id = old.label id
  kinds : ∀ id, region id → new.kindOf id = old.kindOf id

variable (region : String → Prop)

mutual

theorem Draws.same {id : String} {outline : Outline} (drawn : old.Draws id outline) (keeps : Keeps old new region)
    (spreads : Spreads old region none)
    (lists : ∀ id, region id → new.childrenOf id = old.childrenOf id) (inside : region id) :
      new.Draws id outline := by
  cases drawn with
  | node _ kind children known lower =>
      rw [← keeps.labels id inside]
      refine .node id kind children ((keeps.kinds id inside).trans known) ?_
      rw [lists id inside]
      exact lower.same keeps spreads lists fun child member => spreads.down id child inside member (by simp)

theorem DrawsAll.same {ids : List String} {outlines : List Outline} (drawn : old.DrawsAll ids outlines)
    (keeps : Keeps old new region)
    (spreads : Spreads old region none) (lists : ∀ id, region id → new.childrenOf id = old.childrenOf id)
    (inside : ∀ id ∈ ids, region id) : new.DrawsAll ids outlines := by
  cases drawn with
  | nil => exact .nil
  | cons id outline ids outlines first rest =>
      exact .cons id outline ids outlines (first.same keeps spreads lists (inside id List.mem_cons_self))
        (rest.same keeps spreads lists fun other member => inside other (List.mem_cons_of_mem _ member))

end

mutual

theorem Draws.prune {id : String} {outline : Outline} (drawn : old.Draws id outline) (keeps : Keeps old new region)
    (spreads : Spreads old region (some name)) (shown : old.hidden name = false)
    (lists : ∀ id, region id → new.childrenOf id = (old.childrenOf id).filter (· != name)) (inside : region id) :
    new.Draws id (outline.prune name) := by
  cases drawn with
  | node _ kind children known lower =>
      rw [Outline.prune, ← keeps.labels id inside]
      refine .node id kind _ ((keeps.kinds id inside).trans known) ?_
      rw [lists id inside]
      refine lower.prune keeps spreads shown lists fun child member different => ?_
      exact spreads.down id child inside member fun same => different (Option.some.inj same)

theorem DrawsAll.prune {ids : List String} {outlines : List Outline} (drawn : old.DrawsAll ids outlines)
    (keeps : Keeps old new region)
    (spreads : Spreads old region (some name)) (shown : old.hidden name = false)
    (lists : ∀ id, region id → new.childrenOf id = (old.childrenOf id).filter (· != name))
    (inside : ∀ id ∈ ids, id ≠ name → region id) :
    new.DrawsAll (ids.filter (· != name)) (Outline.pruneAmong name outlines) := by
  cases drawn with
  | nil => exact .nil
  | cons id outline ids outlines first rest =>
      have others := rest.prune keeps spreads shown lists fun other member =>
        inside other (List.mem_cons_of_mem _ member)
      have label : outline.name = old.label id := first.name_eq
      by_cases same : id = name
      · have named : outline.name = some name := label.trans (label_eq_some.mpr ⟨same ▸ shown, same⟩)
        simpa [Outline.pruneAmong, same, named] using others
      · have named : outline.name ≠ some name := fun equal => same (label_eq_some.mp (label.symm.trans equal)).2
        have here := first.prune keeps spreads shown lists (inside id List.mem_cons_self same)
        simpa [Outline.pruneAmong, same, named] using DrawsAll.cons id _ _ _ here others

end

variable {grafted : Outline} {index : Option Int}

mutual

theorem Draws.graft {id : String} {outline : Outline} (drawn : old.Draws id outline)
    (keeps : Keeps old new region) (spreads : Spreads old region none)
    (shown : old.hidden parent = false) (fresh : new.Draws name grafted)
    (lists : ∀ id, region id → new.childrenOf id = if id = parent then
      (old.childrenOf parent).insertIdx (Order.insertionPosition (old.childrenOf parent).length index) name
      else old.childrenOf id) (inside : region id) :
    new.Draws id (outline.graft parent index grafted) := by
  cases drawn with
  | node _ kind children known lower =>
      rw [Outline.graft, ← keeps.labels id inside]
      refine .node id kind _ ((keeps.kinds id inside).trans known) ?_
      have rest := lower.graft keeps spreads shown fresh lists fun child member =>
        spreads.down id child inside member (by simp)
      rw [lists id inside]
      by_cases same : id = parent
      · subst same
        have named : new.label id = some id := (keeps.labels id inside).trans (label_eq_some.mpr ⟨shown, rfl⟩)
        rw [if_pos rfl, if_pos named, Outline.placed, rest.length_eq]
        exact rest.insert fresh _
      · have named : new.label id ≠ some parent := fun equal => same (label_eq_some.mp equal).2
        rw [if_neg same, if_neg named]
        exact rest

theorem DrawsAll.graft {ids : List String} {outlines : List Outline} (drawn : old.DrawsAll ids outlines)
    (keeps : Keeps old new region)
    (spreads : Spreads old region none) (shown : old.hidden parent = false) (fresh : new.Draws name grafted)
    (lists : ∀ id, region id → new.childrenOf id = if id = parent then
      (old.childrenOf parent).insertIdx (Order.insertionPosition (old.childrenOf parent).length index) name
      else old.childrenOf id) (inside : ∀ id ∈ ids, region id) :
    new.DrawsAll ids (Outline.graftAmong parent index outlines grafted) := by
  cases drawn with
  | nil => exact .nil
  | cons id outline ids outlines first rest =>
      exact .cons id _ ids _ (first.graft keeps spreads shown fresh lists (inside id List.mem_cons_self))
        (rest.graft keeps spreads shown fresh lists fun other member =>
          inside other (List.mem_cons_of_mem _ member))

end

end Changes

end Layout

end Bookmarks
