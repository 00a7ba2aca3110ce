import Bookmarks.Proofs.Batch.Arranged
import Bookmarks.Proofs.Outline.Drawing

/-!
The drawing of a projection. A projection that shows a tree can be drawn (`drawing_exists`), and what an
operation that is accepted makes of the projection is drawn as what it makes of the drawing (`drawn_apply`).
-/
set_option autoImplicit false

namespace Bookmarks.Projection

open Relation (ReflTransGen TransGen)
open Layout (Keeps Spreads)

-- The nodes that the batch has added are there, but their numbers are no ids.
def layout (p : Projection) : Layout where
  hidden id := decide (IsPending id)
  kindOf id := (p.nodes.get? id).map (·.kind)
  childrenOf := p.childrenOf

variable {p q : Projection} {id parent : String} {kind : Kind} {index : Option Int} {outline : Outline}
  {operation : Operation}

theorem plain_shown (plain : ¬ IsPending id) : p.layout.hidden id = false := by
  simp [layout, plain]

theorem label_of_pending (pending : IsPending id) : p.layout.label id = none := by
  simp [layout, Layout.label, pending]

theorem Arranged.below_eq (arranged : p.Arranged) : p.layout.Below = p.Under := by
  funext child parent
  exact propext (arranged.listed child parent)

theorem kind_of_contains (present : p.nodes.contains id = true) : ∃ kind, p.layout.kindOf id = some kind := by
  obtain ⟨place, found⟩ := Keyed.contains_iff.mp present
  exact ⟨place.kind, by simp [layout, found]⟩

theorem drawing_among {ids : List String} (each : ∀ id ∈ ids, ∃ outline, p.layout.Draws id outline) :
    ∃ outlines, p.layout.DrawsAll ids outlines := by
  induction ids with
  | nil => exact ⟨[], .nil⟩
  | cons id rest ih =>
      obtain ⟨first, drawn⟩ := each id List.mem_cons_self
      obtain ⟨outlines, others⟩ := ih fun other member => each other (List.mem_cons_of_mem _ member)
      exact ⟨first :: outlines, .cons id first rest outlines drawn others⟩

-- The way upwards gets longer with every step down, and it is never longer than there are nodes.
theorem drawing_exists (arranged : p.Arranged) (present : p.nodes.contains id = true) :
    ∃ outline, p.layout.Draws id outline := by
  generalize depth : p.nodes.size - (p.chain id).card = room
  induction room using Nat.strong_induction_on generalizing id with
  | h room ih =>
      obtain ⟨kind, known⟩ := kind_of_contains present
      have lower : ∀ child ∈ p.childrenOf id, ∃ outline, p.layout.Draws child outline := by
        intro child member
        have step : p.Under child id := (arranged.listed child id).mp member
        have longer := chain_shrinks arranged.acyclic step
        have bounded := chain_bounded p child
        exact ih (p.nodes.size - (p.chain child).card) (by omega) (contains_of_under step) rfl
      obtain ⟨outlines, drawn⟩ := drawing_among lower
      exact ⟨_, .node id kind outlines known drawn⟩

theorem spreads_contained (arranged : p.Arranged) : Spreads p.layout (fun id => p.nodes.contains id = true) none :=
  ⟨fun _ child _ member _ => contains_of_under ((arranged.listed child _).mp member)⟩

theorem keeps_of_get? {region : String → Prop} (same : ∀ id, region id → q.nodes.get? id = p.nodes.get? id) :
    Keeps p.layout q.layout region :=
  ⟨fun _ _ => rfl, fun id inside => by simp [layout, same id inside]⟩

theorem get?_add_contained (arranged : p.Arranged) (parent : String) (kind : Kind) (index : Option Int)
    (present : p.nodes.contains id = true) :
    (p.add parent kind index).1.nodes.get? id = p.nodes.get? id := by
  obtain ⟨place, found⟩ := Keyed.contains_iff.mp present
  rw [get?_add_of_some parent kind index arranged.number_absent found, found]

theorem drawn_new (arranged : p.Arranged) (kind : Kind) (index : Option Int)
    (present : p.nodes.contains parent = true) :
    (p.add parent kind index).1.layout.Draws (pendingId (p.pending + 1)) (Outline.leaf kind) := by
  have different : pendingId (p.pending + 1) ≠ parent := by
    rintro rfl
    exact Keyed.not_contains_iff.mpr arranged.number_absent present
  have childless : (p.add parent kind index).1.childrenOf (pendingId (p.pending + 1)) = [] := by
    rw [children_of_add, if_neg different]
    exact arranged.childless arranged.number_absent
  rw [Outline.leaf, ← label_of_pending (pending_id_pending (p.pending + 1))]
  refine .node _ kind [] (by simp [layout, get?_add]) ?_
  show (p.add parent kind index).1.layout.DrawsAll ((p.add parent kind index).1.childrenOf _) []
  rw [childless]
  exact .nil

-- A node that is added as a child, whatever is then put below it.
theorem drawn_graft (arranged : p.Arranged) (plain : ¬ IsPending parent) {new : String} {grafted : Outline}
    (kept : ∀ id, p.nodes.contains id = true → q.nodes.get? id = p.nodes.get? id)
    (lists : ∀ id, p.nodes.contains id = true → q.childrenOf id = if id = parent then
      (p.childrenOf parent).insertIdx (Order.insertionPosition (p.childrenOf parent).length index) new
      else p.childrenOf id)
    (fresh : q.layout.Draws new grafted) (drawn : p.layout.Draws rootId outline) :
    q.layout.Draws rootId (outline.graft parent index grafted) :=
  drawn.graft (fun id => p.nodes.contains id = true) (keeps_of_get? kept) (spreads_contained arranged)
    (plain_shown plain) fresh lists
    (Keyed.contains_iff.mpr ⟨_, arranged.rooted⟩)

theorem drawn_add (arranged : p.Arranged) (plain : ¬ IsPending parent) (present : p.nodes.contains parent = true)
    (drawn : p.layout.Draws rootId outline) :
    (p.add parent kind index).1.layout.Draws rootId (outline.graft parent index (Outline.leaf kind)) :=
  drawn_graft arranged plain (fun _ there => get?_add_contained arranged parent kind index there)
    (fun other _ => children_of_add p parent kind index other) (drawn_new arranged kind index present) drawn

theorem add_tabs_elsewhere (arranged : p.Arranged) {folder : String} (present : p.nodes.contains folder = true)
    (tabs : List Tab) {other : String} (there : p.nodes.contains other = true) :
    (p.addTabs folder tabs).nodes.get? other = p.nodes.get? other ∧
      (other ≠ folder → (p.addTabs folder tabs).childrenOf other = p.childrenOf other) := by
  unfold addTabs
  induction tabs generalizing p with
  | nil => exact ⟨rfl, fun _ => rfl⟩
  | cons tab rest ih =>
      obtain ⟨nodes, children⟩ := ih (arranged.add .bookmark none present)
        (arranged.contains_add .bookmark none present) (arranged.contains_add .bookmark none there)
      refine ⟨nodes.trans (get?_add_contained arranged folder .bookmark none there), fun different => ?_⟩
      rw [List.foldl_cons, children different, children_of_add, if_neg different]

-- A tab comes behind what is in the folder already, and nothing below the folder changes.
theorem drawn_tab (arranged : p.Arranged) {folder : String} (present : p.nodes.contains folder = true)
    {label : Option String} {children : List Outline} (drawn : p.layout.Draws folder (.node label kind children)) :
    (p.add folder .bookmark none).1.layout.Draws folder (.node label kind
      (children ++ [Outline.leaf .bookmark])) := by
  have kept : ∀ id, p.nodes.contains id = true →
      (p.add folder .bookmark none).1.nodes.get? id = p.nodes.get? id := fun _ there =>
    get?_add_contained arranged folder .bookmark none there
  have spreads : Spreads p.layout (fun id => TransGen p.Under id folder) none :=
    ⟨fun id child below member _ => .head ((arranged.listed child id).mp member) below⟩
  have inside : ∀ {id}, TransGen p.Under id folder → p.nodes.contains id = true := by
    intro id below
    obtain ⟨_, step, _⟩ := TransGen.head'_iff.mp below
    exact contains_of_under step
  have lower : (p.add folder .bookmark none).1.layout.DrawsAll (p.childrenOf folder) children := by
    refine drawn.all.same (fun id => TransGen p.Under id folder)
      (keeps_of_get? fun id below => kept id (inside below)) spreads ?lists ?children
    case lists =>
      intro id below
      have different : id ≠ folder := fun same => arranged.acyclic folder (same ▸ below)
      show (p.add folder .bookmark none).1.childrenOf id = p.childrenOf id
      rw [children_of_add, if_neg different]
    case children =>
      intro child member
      exact .single ((arranged.listed child folder).mp member)
  have length : children.length = (p.childrenOf folder).length := drawn.all.length_eq
  have all := lower.insert (drawn_new arranged .bookmark none present) children.length
  have known : (p.add folder .bookmark none).1.layout.kindOf folder = some kind := by
    have same := (keeps_of_get? kept).kinds folder present
    rw [same]
    exact drawn.kind_eq
  have named : label = (p.add folder .bookmark none).1.layout.label folder := drawn.name_eq
  rw [named]
  refine .node folder kind _ known ?_
  show (p.add folder .bookmark none).1.layout.DrawsAll ((p.add folder .bookmark none).1.childrenOf folder) _
  rw [children_of_add, if_pos rfl, ← length]
  rw [List.insertIdx_length_self] at all
  exact all

theorem drawn_tabs (arranged : p.Arranged) {folder : String} (present : p.nodes.contains folder = true)
    (tabs : List Tab) {label : Option String} {children : List Outline}
    (drawn : p.layout.Draws folder (.node label kind children)) :
    (p.addTabs folder tabs).layout.Draws folder
      (.node label kind (children ++ tabs.map fun _ => Outline.leaf .bookmark)) := by
  unfold addTabs
  induction tabs generalizing p children with
  | nil => simpa using drawn
  | cons tab rest ih =>
      have whole := ih (arranged.add .bookmark none present) (arranged.contains_add .bookmark none present)
        (drawn_tab arranged present drawn)
      simpa using whole

-- The folder is drawn with its tabs first, and then put in its place with them.
theorem drawn_session (arranged : p.Arranged) (plain : ¬ IsPending parent)
    (present : p.nodes.contains parent = true) (tabs : List Tab) (drawn : p.layout.Draws rootId outline) :
    ((p.add parent .folder index).1.addTabs (p.add parent .folder index).2 tabs).layout.Draws rootId
      (outline.graft parent index (Outline.session tabs)) := by
  have added := arranged.add .folder index present
  have there : (p.add parent .folder index).1.nodes.contains (pendingId (p.pending + 1)) = true :=
    contains_new p parent .folder index
  have different : ∀ id, p.nodes.contains id = true → id ≠ pendingId (p.pending + 1) := by
    rintro id contained rfl
    exact Keyed.not_contains_iff.mpr arranged.number_absent contained
  refine drawn_graft arranged plain ?kept ?lists (drawn_tabs added there tabs
    (drawn_new arranged .folder index present))
    drawn
  case kept =>
    intro id contained
    have elsewhere := add_tabs_elsewhere added there tabs (arranged.contains_add .folder index contained)
    exact elsewhere.1.trans (get?_add_contained arranged parent .folder index contained)
  case lists =>
    intro id contained
    have elsewhere := add_tabs_elsewhere added there tabs (arranged.contains_add .folder index contained)
    exact (elsewhere.2 (different id contained)).trans (children_of_add p parent .folder index id)

theorem drawn_remove (arranged : p.Arranged) (plain : ¬ IsPending id) (notRoot : id ≠ rootId)
    (drawn : p.layout.Draws rootId outline) : (p.removeSubtree id).layout.Draws rootId (outline.prune id) := by
  have spared : ∀ {other}, ¬ ReflTransGen p.Under other id → ¬ ReflTransGen (Listed p.children) other id := by
    intro other kept lost
    exact kept (arranged.listed_under ▸ lost)
  have rootKept : ¬ ReflTransGen p.Under rootId id := by
    intro path
    rcases ReflTransGen.cases_head path with same | ⟨upper, step, _⟩
    · exact notRoot same.symm
    · exact arranged.not_under_root upper step
  refine drawn.prune (fun other => ¬ ReflTransGen p.Under other id) (keeps_of_get? fun other kept => ?_) ⟨?_⟩
    (plain_shown plain) (fun other kept => ?_) rootKept
  · exact (removeSubtree_kept arranged.parent_of_listed (spared kept)).1
  · intro other child kept member different path
    rcases ReflTransGen.cases_head path with same | ⟨upper, step, above⟩
    · exact different (congrArg some same)
    · rw [under_unique step ((arranged.listed child other).mp member)] at above
      exact kept above
  · exact (removeSubtree_kept arranged.parent_of_listed (spared kept)).2

-- The moved part keeps its shape: neither its old nor its new parent is in it.
theorem drawn_relink (arranged : p.Arranged) (plain : ¬ IsPending id) (plainParent : ¬ IsPending parent)
    (apart : ¬ ReflTransGen p.Under parent id) {moved : Outline} (whole : p.layout.Draws id moved)
    (drawn : p.layout.Draws rootId outline) :
    (p.relink id parent index).layout.Draws rootId ((outline.prune id).graft parent index moved) := by
  let detached : Layout := { p.layout with childrenOf := fun other => (p.childrenOf other).filter (· != id) }
  have lists : ∀ other, (p.relink id parent index).childrenOf other = if other = parent then
      (detached.childrenOf parent).insertIdx (Order.insertionPosition (detached.childrenOf parent).length index) id
      else detached.childrenOf other :=
    children_of_relink arranged.parent_of_listed parent index
  have kinds : ∀ other, (p.relink id parent index).layout.kindOf other = p.layout.kindOf other := by
    intro other
    simp only [layout, get?_relink]
    by_cases same : id = other
    · subst same
      cases p.nodes.get? id <;> simp
    · rw [if_neg same]
  have cut : detached.Draws rootId (outline.prune id) :=
    drawn.prune (fun _ => True) ⟨fun _ _ => rfl, fun _ _ => rfl⟩ ⟨fun _ _ _ _ _ => trivial⟩ (plain_shown plain)
      (fun _ _ => rfl) trivial
  have kept : (p.relink id parent index).layout.Draws id moved := by
    refine whole.same (fun other => ReflTransGen p.Under other id) ⟨fun _ _ => rfl, fun other _ => kinds other⟩
      ⟨?_⟩ ?_ .refl
    · intro other child below member _
      exact .head ((arranged.listed child other).mp member) below
    · intro other below
      have different : other ≠ parent := fun same => apart (same ▸ below)
      refine (lists other).trans ?_
      rw [if_neg different]
      apply List.filter_eq_self.mpr
      intro child member
      have unmoved : child ≠ id := by
        rintro rfl
        exact arranged.acyclic child (TransGen.head' ((arranged.listed child other).mp member) below)
      simpa using unmoved
  have shown : detached.hidden parent = false := plain_shown (p := p) plainParent
  exact cut.graft (fun _ => True) ⟨fun _ _ => rfl, fun other _ => kinds other⟩
    ⟨fun _ _ _ _ _ => trivial⟩ shown kept (fun other _ => lists other) trivial

theorem Arranged.path_to_root (arranged : p.Arranged) (present : p.nodes.contains id = true) :
    ReflTransGen p.layout.Below id rootId := by
  rw [arranged.below_eq]
  exact arranged.anchored id present

theorem find_of_contains (arranged : p.Arranged) (drawn : p.layout.Draws rootId outline) (plain : ¬ IsPending id)
    (present : p.nodes.contains id = true) : ∃ found, outline.find? id = some found ∧ p.layout.Draws id found := by
  obtain ⟨found, there⟩ := Option.isSome_iff_exists.mp
    (drawn.find_of_path (arranged.path_to_root present) (plain_shown plain))
  exact ⟨found, there, (drawn.of_found there).1⟩

theorem drawn_apply (arranged : p.Arranged) (accepts : Accepts p operation q)
    (plain : ∀ id ∈ operation.names, ¬ IsPending id) (drawn : p.layout.Draws rootId outline) :
    q.layout.Draws rootId (outline.perform operation) := by
  have there : ∀ id ∈ operation.names, p.nodes.contains id = true := fun _ named =>
    contains_of_accepts accepts named
  cases accepts with
  | addFolder parent title index folder fits =>
      exact drawn_add arranged (plain parent (by simp [Operation.names]))
        (there parent (by simp [Operation.names])) drawn
  | addBookmark parent title url index folder fits address =>
      exact drawn_add arranged (plain parent (by simp [Operation.names]))
        (there parent (by simp [Operation.names])) drawn
  | renameNode id title place found notRoot => exact drawn
  | moveNode id parent index place found notRoot different apart folder fits =>
      have plainId := plain id (by simp [Operation.names])
      have plainParent := plain parent (by simp [Operation.names])
      obtain ⟨moved, search, whole⟩ := find_of_contains arranged drawn plainId (there id (by simp [Operation.names]))
      have outside := not_above_of_not_descendant different apart
      rw [Outline.perform, search]
      exact drawn_relink arranged plainId plainParent outside whole drawn
  | deleteNode id recursive place found notRoot =>
      exact drawn_remove arranged (plain id (by simp [Operation.names])) notRoot drawn
  | updateBookmark id title url above found notRoot address => exact drawn
  | saveSession parent title tabs index folder fits addresses =>
      exact drawn_session arranged (plain parent (by simp [Operation.names]))
        (there parent (by simp [Operation.names]))
        tabs drawn

end Bookmarks.Projection
