import Bookmarks.Proofs.Outcome
import Bookmarks.Proofs.Rows.Siblings
import Bookmarks.Proofs.Tree.Canonical

/-!
The tree that is loaded from rows. It can be loaded exactly if all kinds are known, and then it shows the
rows as they are.
-/
set_option autoImplicit false

namespace Bookmarks

theorem mapM_of_ok {ε α β : Type} {f : α → Except ε β} {g : α → β} {xs : List α}
    (each : ∀ x ∈ xs, f x = .ok (g x)) : xs.mapM f = .ok (xs.map g) := by
  induction xs with
  | nil => rfl
  | cons x rest ih =>
      rw [List.mapM_cons, bind_of_ok (each x List.mem_cons_self),
        bind_of_ok (ih fun y member => each y (List.mem_cons_of_mem _ member))]
      rfl

theorem ok_of_mapM {ε α β : Type} {f : α → Except ε β} {xs : List α} {ys : List β} (whole : xs.mapM f = .ok ys)
    {x : α} (member : x ∈ xs) : ∃ y, f x = .ok y := by
  induction xs generalizing ys with
  | nil => simp at member
  | cons head rest ih =>
      rw [List.mapM_cons] at whole
      obtain ⟨first, here, later⟩ := bind_eq_ok.mp whole
      obtain ⟨others, there, _⟩ := bind_eq_ok.mp later
      rcases List.mem_cons.mp member with same | behind
      · rw [same]
        exact ⟨first, here⟩
      · exact ih there behind

theorem Kind.name_of_name? {name : String} {kind : Kind} (known : Kind.ofName? name = some kind) :
    kind.name = name := by
  have listed : (name, kind) ∈ Kind.named := Keyed.mem_of_lookup known
  rcases List.mem_cons.mp listed with here | there
  · cases here
    rfl
  · cases List.mem_singleton.mp there
    rfl

namespace Rows

variable {ω : Type} [SiblingOrd ω] {rows : Rows ω}

-- Every row has a kind that is known.
def Legible (rows : Rows ω) : Prop :=
  ∀ id row, rows.get? id = some row → ∃ kind, Kind.ofName? row.kind = some kind

omit [SiblingOrd ω] in
theorem insert_legible {row : Row ω} {kind : Kind} (legible : Legible rows) (id : String)
    (known : Kind.ofName? row.kind = some kind) : Legible (rows.insert id row) := by
  intro other found stored
  rw [Keyed.get?_insert] at stored
  split at stored
  · cases stored
    exact ⟨kind, known⟩
  · exact legible other found stored

-- The node that a row stands for, if its kind is known.
def nodeAt (id : String) (row : Row ω) : Node ω :=
  ⟨id, (Kind.ofName? row.kind).getD .folder, row.title, row.url, row.parentId, row.ord, row.createdAt, row.updatedAt⟩

omit [SiblingOrd ω] in
theorem node_ok {id : String} {row : Row ω} {kind : Kind} (known : Kind.ofName? row.kind = some kind) :
    node id row = .ok (nodeAt id row) := by
  simp [node, nodeAt, known]

theorem nodes_ok (legible : Legible rows) :
    rows.nodes = .ok ((rows.entries.mergeSort readsBefore).map fun entry => nodeAt entry.1 entry.2) := by
  apply mapM_of_ok
  intro entry member
  have stored := Keyed.get?_eq_some_iff.mpr (List.mem_mergeSort.mp member)
  obtain ⟨kind, known⟩ := legible entry.1 entry.2 stored
  exact node_ok known

theorem legible_of_nodes {nodes : List (Node ω)} (loaded : rows.nodes = .ok nodes) : Legible rows := by
  intro id row stored
  have member : (id, row) ∈ rows.entries.mergeSort readsBefore :=
    List.mem_mergeSort.mpr (Keyed.get?_eq_some_iff.mp stored)
  obtain ⟨made, this⟩ := ok_of_mapM loaded member
  cases known : Kind.ofName? row.kind with
  | some kind => exact ⟨kind, rfl⟩
  | none => simp [node, known] at this

theorem table_eq (rows : Rows ω) :
    Keyed.ofList ((((rows.entries.mergeSort readsBefore).map fun entry => nodeAt entry.1 entry.2)).map
      fun node => (node.id, node)) = Keyed.map nodeAt rows := by
  apply Keyed.of_list_eq_map
  intro id node
  rw [List.map_map, List.mem_map]
  constructor
  · rintro ⟨⟨other, row⟩, member, same⟩
    obtain ⟨rfl, rfl⟩ := Prod.mk.inj same
    exact ⟨row, Keyed.get?_eq_some_iff.mpr (List.mem_mergeSort.mp member), rfl⟩
  · rintro ⟨row, stored, rfl⟩
    exact ⟨(id, row), List.mem_mergeSort.mpr (Keyed.get?_eq_some_iff.mp stored), rfl⟩

theorem ids_below_eq (rows : Rows ω) (parent : String) :
    Tree.idsBelow (Keyed.map nodeAt rows) parent = rows.childIds parent := by
  unfold Tree.idsBelow childIds siblings
  have order : (List.map (fun node : Node ω => (node.id, node.ord))
      ((Keyed.values (Keyed.map nodeAt rows)).filter fun node => node.parentId == some parent)).mergeSort precedes =
      (((Keyed.values (Keyed.map nodeAt rows)).filter fun node => node.parentId == some parent).mergeSort
        Node.precedes).map fun node => (node.id, node.ord) :=
    (List.map_mergeSort (f := fun node : Node ω => (node.id, node.ord)) (r := Node.precedes) (s := precedes)
      fun _ _ _ _ => rfl).symm
  have same : List.map (fun node : Node ω => (node.id, node.ord))
      ((Keyed.values (Keyed.map nodeAt rows)).filter fun node => node.parentId == some parent) =
      (rows.entries.filter fun entry => isBelow parent entry.2 && some entry.1 != none).map
        fun entry => (entry.1, entry.2.ord) := by
    simp only [Keyed.values, Keyed.map, List.map_map, List.filter_map]
    congr 1
    apply List.filter_congr
    intro entry _
    simp [isBelow, nodeAt]
  simp only
  rw [← same, order, List.map_map]
  rfl

-- What is loaded shows the rows as they are.
theorem tree_ok (legible : Legible rows) (version : String) :
    ∃ tree, rows.tree version = .ok tree ∧ tree.version = version ∧ tree.rootId = rootId ∧
      tree.nodes = Keyed.map nodeAt rows ∧ ∀ parent, tree.childrenOf parent = rows.childIds parent := by
  refine ⟨_, by rw [tree, nodes_ok legible]; rfl, rfl, rfl, table_eq rows, ?_⟩
  intro parent
  rw [Tree.children_of_nodes, ← ids_below_eq, ← table_eq]
  rfl

theorem legible_of_tree {version : String} {tree : Tree ω} (loaded : rows.tree version = .ok tree) :
    Legible rows := by
  cases made : rows.nodes with
  | ok nodes => exact legible_of_nodes made
  | error failure => simp [Rows.tree, made, Except.map] at loaded

theorem contains_of_tree {version id : String} {tree : Tree ω} (loaded : rows.tree version = .ok tree) :
    tree.nodes.contains id = rows.contains id := by
  obtain ⟨same, loadedSame, _, _, shown, _⟩ := tree_ok (legible_of_tree loaded) version
  rw [loaded] at loadedSame
  cases loadedSame
  rw [shown, Keyed.contains, Keyed.get?_map, Option.isSome_map, Keyed.contains]

end Rows

end Bookmarks
