import Bookmarks.Proofs.Outline.Checks
import Bookmarks.Proofs.Tree.WellFormed

/-!
The verdict on a batch. It is what the rules say about each operation in the drawing that the operations
before it leave (`check_decides_rules`).
-/
set_option autoImplicit false

namespace Bookmarks

open Relation (ReflTransGen)

namespace Outline

variable {outline : Outline} {operation other : Operation} {batch rest : List Operation} {position : Nat}
  {rule : Rule}

-- Every operation obeys the rules in what the operations before it leave.
def Admits (outline : Outline) (batch : List Operation) : Prop :=
  ∀ position operation, batch[position]? = some operation → (outline.after (batch.take position)).Obeys operation

-- The operation at the position is the first that breaks a rule, and the rule is the first that it breaks.
structure FailsAt (outline : Outline) (batch : List Operation) (position : Nat) (operation : Operation)
    (rule : Rule) : Prop where
  there : batch[position]? = some operation
  before : outline.Admits (batch.take position)
  broken : ((outline.after (batch.take position)).rules operation).find? Rule.broken = some rule

theorem admits_cons :
    outline.Admits (operation :: rest) ↔ outline.Obeys operation ∧ (outline.perform operation).Admits rest := by
  constructor
  · intro admits
    exact ⟨admits 0 operation rfl, fun position other there => admits (position + 1) other there⟩
  · rintro ⟨obeys, later⟩ position other there
    cases position with
    | zero =>
        cases there
        exact obeys
    | succ position => exact later position other there

theorem fails_first :
    outline.FailsAt (operation :: rest) 0 other rule ↔
      operation = other ∧ (outline.rules operation).find? Rule.broken = some rule := by
  constructor
  · rintro ⟨there, _, broken⟩
    cases there
    exact ⟨rfl, broken⟩
  · rintro ⟨rfl, broken⟩
    exact ⟨rfl, fun _ _ there => by simp at there, broken⟩

theorem fails_later :
    outline.FailsAt (operation :: rest) (position + 1) other rule ↔
      outline.Obeys operation ∧ (outline.perform operation).FailsAt rest position other rule := by
  constructor
  · rintro ⟨there, before, broken⟩
    obtain ⟨obeys, later⟩ := admits_cons.mp before
    exact ⟨obeys, there, later, broken⟩
  · rintro ⟨obeys, there, before, broken⟩
    exact ⟨there, admits_cons.mpr ⟨obeys, before⟩, broken⟩

end Outline

namespace Projection

variable {p : Projection} {outline : Outline} {batch : List Operation}

theorem decides_rules (arranged : p.Arranged) (drawn : p.layout.Draws rootId outline)
    (plain : ∀ operation ∈ batch, ∀ id ∈ operation.names, ¬ IsPending id) (start : Nat) :
    ((∃ q, p.applyAll start batch = .ok q) ↔ outline.Admits batch) ∧
      ∀ rejection, p.applyAll start batch = .error rejection ↔ ∃ position operation rule,
        outline.FailsAt batch position operation rule ∧
          rejection = ⟨start + position, operation.name, rule.violation⟩ := by
  induction batch generalizing p outline start with
  | nil =>
      refine ⟨⟨fun _ _ _ there => by simp at there, fun _ => ⟨p, rfl⟩⟩, fun rejection => ?_⟩
      constructor
      · intro failed
        cases failed
      · rintro ⟨position, operation, rule, ⟨there, _, _⟩, _⟩
        simp at there
  | cons operation rest ih =>
      have plainHere := plain operation List.mem_cons_self
      have ruled := ruled_apply arranged drawn plainHere
      rw [Outline.admits_cons]
      cases outcome : p.apply operation with
      | error violation =>
          -- the first operation already breaks a rule
          obtain ⟨rule, broken, same⟩ := ruled.error_iff.mp outcome
          have disobeys : ¬ outline.Obeys operation := by
            intro obeys
            obtain ⟨q, succeeds⟩ := ruled.ok_iff.mpr obeys
            rw [outcome] at succeeds
            cases succeeds
          rw [applyAll, outcome]
          refine ⟨by simp [disobeys], fun rejection => ?_⟩
          constructor
          · rintro ⟨⟩
            exact ⟨0, operation, rule, Outline.fails_first.mpr ⟨rfl, broken⟩, by rw [same, Nat.add_zero]⟩
          · rintro ⟨position, other, otherRule, fails, rfl⟩
            cases position with
            | zero =>
                obtain ⟨rfl, again⟩ := Outline.fails_first.mp fails
                rw [broken] at again
                rw [← Option.some.inj again, same]
                rfl
            | succ position => exact absurd (Outline.fails_later.mp fails).1 disobeys
      | ok q =>
          have obeys : outline.Obeys operation := ruled.ok_iff.mp ⟨q, outcome⟩
          have accepts := accepts_of_ok outcome
          obtain ⟨accepted, rejected⟩ := ih (arranged.apply accepts) (drawn_apply arranged accepts plainHere drawn)
            (fun other member => plain other (List.mem_cons_of_mem _ member)) (start + 1)
          rw [applyAll, outcome]
          refine ⟨accepted.trans (by simp [obeys]), fun rejection => (rejected rejection).trans ?_⟩
          constructor
          · rintro ⟨position, other, rule, fails, rfl⟩
            refine ⟨position + 1, other, rule, Outline.fails_later.mpr ⟨obeys, fails⟩, ?_⟩
            rw [Nat.add_right_comm, Nat.add_assoc]
          · rintro ⟨position, other, rule, fails, rfl⟩
            cases position with
            | zero =>
                obtain ⟨rfl, broken⟩ := Outline.fails_first.mp fails
                have failed := ruled.error_iff.mpr ⟨rule, broken, rfl⟩
                rw [outcome] at failed
                cases failed
            | succ position =>
                refine ⟨position, other, rule, (Outline.fails_later.mp fails).2, ?_⟩
                rw [Nat.add_right_comm, Nat.add_assoc]

end Projection

namespace Tree

variable {ω : Type} {tree : Tree ω} {batch : List Operation}

def layout (tree : Tree ω) : Layout where
  hidden _ := false
  kindOf id := (tree.nodes.get? id).map (·.kind)
  childrenOf := tree.childrenOf

def Draws (tree : Tree ω) (outline : Outline) : Prop := tree.layout.Draws Bookmarks.rootId outline

-- The root is a folder without a parent. All nodes are below it, and each is listed once, by its parent alone.
structure Arranged (tree : Tree ω) : Prop where
  named : ∀ id node, tree.nodes.get? id = some node → node.id = id
  rooted : ∃ root, tree.nodes.get? Bookmarks.rootId = some root ∧ root.kind = .folder ∧ root.parentId = none
  anchored : ∀ id, tree.nodes.contains id = true → ReflTransGen (fun child parent =>
    ∃ node, tree.nodes.get? child = some node ∧ node.parentId = some parent) id Bookmarks.rootId
  listed : ∀ id parent, (tree.childrenOf parent).count id =
    if (tree.nodes.get? id).any (fun node => node.parentId == some parent) then 1 else 0

theorem below_of_count (arranged : tree.Arranged) (id parent : String) :
    id ∈ tree.childrenOf parent ↔ ∃ node, tree.nodes.get? id = some node ∧ node.parentId = some parent := by
  rw [← List.count_pos_iff, arranged.listed]
  split
  · rename_i below
    simpa [Option.any_eq_true] using below
  · rename_i elsewhere
    simpa [Option.any_eq_true] using elsewhere

theorem under_of_tree (arranged : tree.Arranged) (id parent : String) : (Projection.ofTree tree).Under id parent ↔
    ∃ node, tree.nodes.get? id = some node ∧ node.parentId = some parent := by
  rw [Projection.Under, Projection.parentOf, Projection.place_of_tree arranged.named]
  cases tree.nodes.get? id <;> simp

theorem contains_of_place (arranged : tree.Arranged) (id : String) :
    (Projection.ofTree tree).nodes.contains id = tree.nodes.contains id := by
  rw [Keyed.contains, Projection.place_of_tree arranged.named, Option.isSome_map, Keyed.contains]

theorem Arranged.projected (arranged : tree.Arranged) (plain : ∀ id, tree.nodes.contains id = true → ¬ IsPending id) :
    (Projection.ofTree tree).Arranged := by
  refine ⟨?rooted, ?anchored, ?listed, ?unnumbered⟩
  case rooted =>
    obtain ⟨root, found, kind, orphan⟩ := arranged.rooted
    rw [Projection.place_of_tree arranged.named, found, Option.map_some, kind, orphan]
  case anchored =>
    intro id there
    rw [contains_of_place arranged] at there
    refine ReflTransGen.mono (fun child parent step => ?_) _ _ (arranged.anchored id there)
    exact (under_of_tree arranged child parent).mpr step
  case listed =>
    intro id parent
    exact (below_of_count arranged id parent).trans (under_of_tree arranged id parent).symm
  case unnumbered =>
    intro number _
    apply Keyed.not_contains_iff.mp
    rw [contains_of_place arranged]
    exact fun there => plain _ there (pending_id_pending number)

theorem drawn_of_tree (arranged : tree.Arranged) (plain : ∀ id, tree.nodes.contains id = true → ¬ IsPending id)
    {outline : Outline} :
    tree.Draws outline ↔ (Projection.ofTree tree).layout.Draws Bookmarks.rootId outline := by
  have root : tree.nodes.contains Bookmarks.rootId = true := by
    obtain ⟨root, found, _⟩ := arranged.rooted
    exact Keyed.contains_iff.mpr ⟨root, found⟩
  have labels : ∀ id, tree.nodes.contains id = true → (Projection.ofTree tree).layout.label id =
    tree.layout.label id := by
    intro id there
    simp [Layout.label, Projection.layout, layout, plain id there]
  have kinds : ∀ id, (Projection.ofTree tree).layout.kindOf id = tree.layout.kindOf id := by
    intro id
    simp only [Projection.layout, layout, Projection.place_of_tree arranged.named, Option.map_map]
    rfl
  have inside : ∀ id child, child ∈ tree.childrenOf id → tree.nodes.contains child = true := by
    intro id child member
    obtain ⟨node, found, _⟩ := (below_of_count arranged child id).mp member
    exact Keyed.contains_iff.mpr ⟨node, found⟩
  have spreads : ∀ layout : Layout, layout.childrenOf = tree.childrenOf →
      layout.Spreads (fun id => tree.nodes.contains id = true) none := by
    intro layout same
    refine ⟨fun id child _ member _ => inside id child ?_⟩
    rw [← same]
    exact member
  constructor
  · intro drawn
    exact drawn.same (fun id => tree.nodes.contains id = true) ⟨labels, fun id _ => kinds id⟩ (spreads _ rfl)
      (fun _ _ => rfl) root
  · intro drawn
    exact drawn.same (fun id => tree.nodes.contains id = true)
      ⟨fun id there => (labels id there).symm, fun id _ => (kinds id).symm⟩ (spreads _ rfl) (fun _ _ => rfl) root

theorem WellFormed.arranged {ω : Type} [LinearOrder ω] [SiblingOrd ω] {born : Int} {tree : Tree ω}
    (formed : tree.WellFormed born) : tree.Arranged := by
  refine ⟨formed.named, ⟨_, formed.rooted.2, rfl, rfl⟩, formed.anchored, formed.listed⟩

/-- A batch that names nodes by their ids is checked against a tree none of whose ids reads like the number of a node
that a batch adds. It is accepted exactly if each of its operations obeys the rules in the tree that the operations
before it have made. Otherwise it is rejected because of the first operation that does not, with the first of the rules
that this operation breaks. -/
theorem check_decides_rules (arranged : tree.Arranged)
    (plainTree : ∀ id, tree.nodes.contains id = true → ¬ IsPending id)
    (plain : ∀ operation ∈ batch, ∀ id ∈ operation.names, ¬ IsPending id) :
    (∃ outline, tree.Draws outline) ∧ ∀ outline, tree.Draws outline →
      ((∃ p, tree.project batch = .ok p) ↔ outline.Admits batch) ∧
        ∀ rejection, tree.project batch = .error rejection ↔ ∃ position operation rule,
          outline.FailsAt batch position operation rule ∧
            rejection = ⟨position, operation.name, rule.violation⟩ := by
  have projected := arranged.projected plainTree
  constructor
  · obtain ⟨outline, drawn⟩ := Projection.drawing_exists projected
      (Keyed.contains_iff.mpr ⟨_, projected.rooted⟩)
    exact ⟨outline, (drawn_of_tree arranged plainTree).mpr drawn⟩
  · intro outline drawn
    have decided := Projection.decides_rules projected ((drawn_of_tree arranged plainTree).mp drawn) plain 0
    simp only [Nat.zero_add] at decided
    exact decided

-- A folder in the root, and a bookmark in it.
def nested : Tree ℚ where
  version := ""
  rootId := Bookmarks.rootId
  nodes := Keyed.ofList [("root", ⟨"root", .folder, "Root", none, none, 0, 0, 0⟩),
    ("a", ⟨"a", .folder, "A", none, some "root", 0, 0, 0⟩),
    ("b", ⟨"b", .bookmark, "B", some "http://b/", some "a", 0, 0, 0⟩)]
  children := Keyed.ofList [("root", ["a"]), ("a", ["b"])]

theorem nested_get (id : String) : nested.nodes.get? id =
    if id = "root" then some ⟨"root", .folder, "Root", none, none, 0, 0, 0⟩
    else if id = "a" then some ⟨"a", .folder, "A", none, some "root", 0, 0, 0⟩
    else if id = "b" then some ⟨"b", .bookmark, "B", some "http://b/", some "a", 0, 0, 0⟩
    else none := by
  simp only [nested, Keyed.get?_of_list, List.reverse_cons, List.reverse_nil, List.nil_append, List.cons_append,
    Keyed.lookup, eq_comm (b := id)]
  grind

theorem nested_children (id : String) : nested.childrenOf id =
    if id = "root" then ["a"] else if id = "a" then ["b"] else [] := by
  simp only [nested, childrenOf, Keyed.get?_of_list, List.reverse_cons, List.reverse_nil, List.nil_append,
    List.cons_append,
    Keyed.lookup, eq_comm (b := id)]
  grind

theorem nested_contains (id : String) : nested.nodes.contains id = true ↔ id = "root" ∨ id = "a" ∨ id = "b" := by
  rw [Keyed.contains, nested_get]
  grind

theorem nested_arranged : nested.Arranged := by
  refine ⟨?named, ⟨_, (nested_get _).trans (if_pos rfl), rfl, rfl⟩, ?anchored, ?listed⟩
  case named =>
    intro id node found
    rw [nested_get] at found
    grind
  case anchored =>
    intro id there
    have first : ReflTransGen (fun child parent =>
        ∃ node, nested.nodes.get? child = some node ∧ node.parentId = some parent) "a" Bookmarks.rootId :=
      .single ⟨_, (nested_get "a").trans rfl, rfl⟩
    rcases (nested_contains id).mp there with rfl | rfl | rfl
    · exact .refl
    · exact first
    · exact .head ⟨_, (nested_get "b").trans rfl, rfl⟩ first
  case listed =>
    intro id parent
    rw [nested_children, nested_get]
    grind

theorem nested_plain (id : String) (there : nested.nodes.contains id = true) : ¬ IsPending id := by
  rcases (nested_contains id).mp there with rfl | rfl | rfl <;> decide

def nestedOutline : Outline :=
  .node (some "root") .folder [.node (some "a") .folder [.node (some "b") .bookmark []]]

theorem nested_drawn : nested.Draws nestedOutline :=
  .node "root" .folder _ rfl (.cons "a" _ [] []
    (.node "a" .folder _ rfl (.cons "b" _ [] [] (.node "b" .bookmark _ rfl .nil) .nil)) .nil)

def crossing : List Operation := [.addFolder "root" "C" (some 1), .moveNode "a" "b" none]

-- The folder that is to go below its own bookmark breaks two rules, and the first of them is reported.
theorem check_decides_rules_nested :
    nested.Arranged ∧ (∀ id, nested.nodes.contains id = true → ¬ IsPending id) ∧
      (∀ operation ∈ crossing, ∀ id ∈ operation.names, ¬ IsPending id) ∧ nested.Draws nestedOutline ∧
      nested.project crossing = .error ⟨1, "move_node", .cycleDetected "a" "b"⟩ := by
  have plain : ∀ operation ∈ crossing, ∀ id ∈ operation.names, ¬ IsPending id := by decide
  obtain ⟨_, decided⟩ := check_decides_rules nested_arranged nested_plain plain
  refine ⟨nested_arranged, nested_plain, plain, nested_drawn, ((decided nestedOutline nested_drawn).2 _).mpr ?_⟩
  have obeys : nestedOutline.Obeys (.addFolder "root" "C" (some 1)) := by
    unfold Outline.Obeys
    decide
  exact ⟨1, .moveNode "a" "b" none, ⟨false, .cycleDetected "a" "b"⟩,
    Outline.fails_later.mpr ⟨obeys, Outline.fails_first.mpr ⟨rfl, rfl⟩⟩, rfl⟩

end Tree

end Bookmarks
