import Bookmarks.Proofs.Order.Binary
import Bookmarks.Proofs.Tree.Changes
import Mathlib.Data.List.Nodup

/-!
The tree of a list of nodes is determined by the nodes that count: it has the last one listed with each id, and
they alone say where each is shown (`of_nodes_canonical`).
-/
set_option autoImplicit false

namespace Bookmarks

namespace Node

variable {ω : Type} [SiblingOrd ω] [LawfulOrd ω]

instance : Std.TransCmp (fun a b : Node ω => SiblingOrd.order a.ord b.ord) where
  eq_swap := Std.OrientedCmp.eq_swap
  isLE_trans := Std.TransCmp.isLE_trans

instance : Std.TransCmp (order : Node ω → Node ω → Ordering) :=
  inferInstanceAs (Std.TransCmp (compareLex (fun a b : Node ω => SiblingOrd.order a.ord b.ord) (compareOn Node.id)))

omit [LawfulOrd ω] in
theorem precedes_iff (a b : Node ω) : a.precedes b = true ↔ (a.order b).isLE = true := by
  unfold precedes
  cases a.order b <;> decide

theorem precedes_trans (a b c : Node ω) (first : a.precedes b = true) (second : b.precedes c = true) :
    a.precedes c = true := by
  rw [precedes_iff] at first second ⊢
  exact Std.TransCmp.isLE_trans first second

theorem precedes_total (a b : Node ω) : (a.precedes b || b.precedes a) = true := by
  rw [Bool.or_eq_true, precedes_iff, precedes_iff]
  cases either : a.order b with
  | lt => exact Or.inl rfl
  | eq => exact Or.inl rfl
  | gt =>
      have swapped : b.order a = .lt := Std.OrientedCmp.gt_iff_lt.mp either
      exact Or.inr (by rw [swapped]; rfl)

-- Of two siblings one is strictly before the other.
omit [LawfulOrd ω] in
theorem order_lt_of_precedes {a b : Node ω} (before : a.precedes b = true) (different : a.id ≠ b.id) :
    a.order b = .lt := by
  cases either : a.order b with
  | lt => rfl
  | eq => exact absurd (Std.LawfulEqCmp.eq_of_compare (Ordering.then_eq_eq.mp either).2) different
  | gt =>
      rw [precedes_iff, either] at before
      cases before

end Node

namespace Tree

variable {ω : Type} [SiblingOrd ω] {version parent id : String} {nodes others : List (Node ω)} {table : Keyed (Node ω)}

-- Every node stands under its own id.
def Named (table : Keyed (Node ω)) : Prop := ∀ id node, table.get? id = some node → node.id = id

-- The children of a tree follow from its nodes.
theorem of_nodes_ext (same : (ofNodes version nodes).nodes = (ofNodes version others).nodes) :
    ofNodes version nodes = ofNodes version others := by
  have table : Keyed.ofList (nodes.map fun node => (node.id, node)) = Keyed.ofList (others.map fun node => (node.id, node)) :=
    same
  rw [ofNodes, ofNodes, table]

omit [SiblingOrd ω] in
theorem lookup_node (nodes : List (Node ω)) (id : String) :
    Keyed.lookup id (nodes.map fun node => (node.id, node)) = nodes.find? fun node => node.id == id := by
  induction nodes with
  | nil => rfl
  | cons head rest ih =>
      by_cases here : head.id = id <;> simp [Keyed.lookup, here, ih]

theorem get?_of_nodes {node : Node ω} : (ofNodes version nodes).nodes.get? id = some node ↔
    ∃ earlier later, nodes = earlier ++ node :: later ∧ node.id = id ∧ ∀ other ∈ later, other.id ≠ id := by
  have found : (ofNodes version nodes).nodes.get? id = nodes.reverse.find? fun node => node.id == id := by
    rw [← lookup_node, List.map_reverse]
    exact Keyed.get?_of_list _ id
  rw [found, List.find?_eq_some_iff_append]
  constructor
  · rintro ⟨named, later, earlier, listed, different⟩
    refine ⟨earlier.reverse, later.reverse, ?_, beq_iff_eq.mp named, ?_⟩
    · rw [← List.reverse_reverse nodes, listed, List.reverse_append, List.reverse_cons, List.append_assoc]
      rfl
    · intro other member
      simpa using different other (List.mem_reverse.mp member)
  · rintro ⟨earlier, later, rfl, named, different⟩
    refine ⟨beq_iff_eq.mpr named, later.reverse, earlier.reverse, by simp, ?_⟩
    intro other member
    simpa using different other (List.mem_reverse.mp member)

theorem of_nodes_named (version : String) (nodes : List (Node ω)) : Named (ofNodes version nodes).nodes := by
  intro id node found
  obtain ⟨_, _, _, named, _⟩ := get?_of_nodes.mp found
  exact named

theorem mem_ids_below (named : Named table) :
    id ∈ idsBelow table parent ↔ ∃ node, table.get? id = some node ∧ node.parentId = some parent := by
  simp only [idsBelow, List.mem_map, List.mem_mergeSort, List.mem_filter, Keyed.mem_values, beq_iff_eq]
  constructor
  · rintro ⟨node, ⟨⟨key, found⟩, below⟩, rfl⟩
    rw [named key node found]
    exact ⟨node, found, below⟩
  · rintro ⟨node, found, below⟩
    exact ⟨node, ⟨⟨id, found⟩, below⟩, named id node found⟩

theorem ids_below_nodup (named : Named table) (parent : String) : (idsBelow table parent).Nodup := by
  have ids : table.values.map (·.id) = table.keys := by
    rw [Keyed.values, Keyed.keys, List.map_map]
    refine List.map_congr_left fun entry member => ?_
    exact named entry.1 entry.2 (Keyed.get?_eq_some_iff.mpr member)
  refine ((List.mergeSort_perm _ _).map _).nodup_iff.mpr ?_
  exact (ids ▸ Keyed.keys_nodup table).sublist (List.filter_sublist.map _)

theorem ids_below_ascending [LawfulOrd ω] (named : Named table) (parent : String) :
    (idsBelow table parent).Pairwise fun a b =>
      ∃ left right, table.get? a = some left ∧ table.get? b = some right ∧ left.order right = .lt := by
  have distinct : (((table.values.filter fun node => node.parentId == some parent).mergeSort Node.precedes).map
    (·.id)).Pairwise (· ≠ ·) := ids_below_nodup named parent
  unfold idsBelow
  rw [List.pairwise_map] at distinct ⊢
  have sorted := List.pairwise_mergeSort Node.precedes_trans Node.precedes_total
    (table.values.filter fun node => node.parentId == some parent)
  have present {node : Node ω}
      (member : node ∈ (table.values.filter fun node => node.parentId == some parent).mergeSort Node.precedes) :
      table.get? node.id = some node := by
    obtain ⟨key, found⟩ := Keyed.mem_values.mp (List.mem_filter.mp (List.mem_mergeSort.mp member)).1
    rw [named key node found]
    exact found
  refine (sorted.and distinct).imp_of_mem ?_
  rintro left right memberLeft memberRight ⟨before, different⟩
  exact ⟨left, right, present memberLeft, present memberRight, Node.order_lt_of_precedes before different⟩

-- A list for whoever has children, and none for others.
theorem get?_children (version : String) (nodes : List (Node ω)) (parent : String) :
    (ofNodes version nodes).children.get? parent =
      if idsBelow (ofNodes version nodes).nodes parent = [] then none
      else some (idsBelow (ofNodes version nodes).nodes parent) := by
  have named := of_nodes_named version nodes
  have entry {ids : List String} : (parent, ids) ∈ (ofNodes version nodes).nodes.values.filterMap (fun node =>
      node.parentId.map fun parent => (parent, idsBelow (ofNodes version nodes).nodes parent)) ↔
      (∃ node ∈ (ofNodes version nodes).nodes.values, node.parentId = some parent) ∧
        ids = idsBelow (ofNodes version nodes).nodes parent := by
    rw [List.mem_filterMap]
    constructor
    · rintro ⟨node, member, made⟩
      obtain ⟨upper, below, same⟩ := Option.map_eq_some_iff.mp made
      obtain ⟨rfl, rfl⟩ := Prod.mk.inj same
      exact ⟨⟨node, member, below⟩, rfl⟩
    · rintro ⟨⟨node, member, below⟩, rfl⟩
      exact ⟨node, member, by simp [below]⟩
  by_cases childless : idsBelow (ofNodes version nodes).nodes parent = []
  · rw [if_pos childless]
    apply Keyed.get?_of_list_eq_none
    intro ids member
    obtain ⟨⟨node, listed, below⟩, _⟩ := entry.mp member
    obtain ⟨id, found⟩ := Keyed.mem_values.mp listed
    have child : id ∈ idsBelow (ofNodes version nodes).nodes parent := (mem_ids_below named).mpr ⟨node, found, below⟩
    rw [childless] at child
    cases child
  · rw [if_neg childless]
    obtain ⟨id, child⟩ := List.exists_mem_of_ne_nil _ childless
    obtain ⟨node, found, below⟩ := (mem_ids_below named).mp child
    apply Keyed.get?_of_list_of_unique
    · exact entry.mpr ⟨⟨node, Keyed.mem_values.mpr ⟨id, found⟩, below⟩, rfl⟩
    · intro other member
      exact (entry.mp member).2

theorem children_of_nodes (version : String) (nodes : List (Node ω)) (parent : String) :
    (ofNodes version nodes).childrenOf parent = idsBelow (ofNodes version nodes).nodes parent := by
  rw [childrenOf, get?_children]
  split
  · rename_i childless
    exact childless.symm
  · rfl

omit [SiblingOrd ω] in
theorem mem_children {tree : Tree ω} {ids : List String} (listed : tree.children.get? parent = some ids) :
    tree.childrenOf parent = ids := by
  rw [childrenOf, listed]
  rfl

-- Nobody is a child of two.
theorem children_nodup (version : String) (nodes : List (Node ω)) :
    (ofNodes version nodes).children.values.flatten.Nodup := by
  have named := of_nodes_named version nodes
  have below {entry : String × List String} (member : entry ∈ (ofNodes version nodes).children.entries) :
      idsBelow (ofNodes version nodes).nodes entry.1 = entry.2 := by
    rw [← children_of_nodes, mem_children (Keyed.get?_eq_some_iff.mpr member)]
  rw [List.nodup_flatten]
  constructor
  · intro ids member
    obtain ⟨entry, listed, rfl⟩ := List.mem_map.mp member
    rw [← below listed]
    exact ids_below_nodup named entry.1
  · rw [Keyed.values, List.pairwise_map]
    refine (ofNodes version nodes).children.ascending.imp_of_mem ?_
    intro first second memberFirst memberSecond less id inFirst inSecond
    rw [← below memberFirst] at inFirst
    rw [← below memberSecond] at inSecond
    obtain ⟨node, found, belowFirst⟩ := (mem_ids_below named).mp inFirst
    obtain ⟨other, same, belowSecond⟩ := (mem_ids_below named).mp inSecond
    rw [found] at same
    cases same
    rw [belowFirst] at belowSecond
    exact String.lt_irrefl _ (Option.some.inj belowSecond ▸ less)

/-- The last node with an id is the one that counts. If it has a parent, it stands once among all children, and that is
among those of its parent, whether there is one of that id or not. Who has an entry has children, and they stand in
strictly ascending order. -/
structure Canonical (nodes : List (Node ω)) (tree : Tree ω) : Prop where
  last : ∀ id node, tree.nodes.get? id = some node ↔
    ∃ earlier later, nodes = earlier ++ node :: later ∧ node.id = id ∧ ∀ other ∈ later, other.id ≠ id
  once : ∀ id, tree.children.values.flatten.count id = if (tree.nodes.get? id).any (·.parentId.isSome) then 1 else 0
  placed : ∀ parent id, id ∈ tree.childrenOf parent ↔
    ∃ node, tree.nodes.get? id = some node ∧ node.parentId = some parent
  furnished : ∀ parent, tree.children.get? parent ≠ some []
  ascending : ∀ parent, (tree.childrenOf parent).Pairwise fun a b =>
    ∃ left right, tree.nodes.get? a = some left ∧ tree.nodes.get? b = some right ∧ left.order right = .lt

theorem canonical_of_nodes [LawfulOrd ω] (version : String) (nodes : List (Node ω)) :
    Canonical nodes (ofNodes version nodes) := by
  have named := of_nodes_named version nodes
  have placed (parent id : String) : id ∈ (ofNodes version nodes).childrenOf parent ↔
      ∃ node, (ofNodes version nodes).nodes.get? id = some node ∧ node.parentId = some parent := by
    rw [children_of_nodes]
    exact mem_ids_below named
  refine ⟨fun _ _ => get?_of_nodes, ?once, placed, ?furnished, ?ascending⟩
  case once =>
    intro id
    have somewhere : id ∈ (ofNodes version nodes).children.values.flatten ↔
        ((ofNodes version nodes).nodes.get? id).any (·.parentId.isSome) = true := by
      simp only [List.mem_flatten, Keyed.mem_values, Option.any_eq_true, Option.isSome_iff_exists]
      constructor
      · rintro ⟨ids, ⟨parent, listed⟩, member⟩
        rw [← mem_children listed] at member
        obtain ⟨node, found, below⟩ := (placed parent id).mp member
        exact ⟨node, found, parent, below⟩
      · rintro ⟨node, found, parent, below⟩
        have child := (mem_ids_below named).mpr ⟨node, found, below⟩
        refine ⟨_, ⟨parent, (get?_children version nodes parent).trans (if_neg (List.ne_nil_of_mem child))⟩, child⟩
    by_cases member : id ∈ (ofNodes version nodes).children.values.flatten
    · rw [if_pos (somewhere.mp member), List.count_eq_one_of_mem (children_nodup version nodes) member]
    · rw [if_neg fun below => member (somewhere.mpr below), List.count_eq_zero_of_not_mem member]
  case furnished =>
    intro parent
    rw [get?_children]
    split
    · simp
    · rename_i children
      simpa using children
  case ascending =>
    intro parent
    rw [children_of_nodes]
    exact ids_below_ascending named parent

-- Where each id is listed once the order of the list says nothing.
theorem of_nodes_perm (once : (nodes.map (·.id)).Nodup) (perm : nodes.Perm others) :
    ofNodes version others = ofNodes version nodes := by
  refine (of_nodes_ext (Keyed.ext_get? fun id => ?_)).symm
  show (Keyed.ofList _).get? id = (Keyed.ofList _).get? id
  rw [Keyed.get?_of_list, Keyed.get?_of_list]
  have entries : (nodes.map fun node => (node.id, node)).reverse.Perm (others.map fun node => (node.id, node)).reverse :=
    (List.reverse_perm _).trans ((perm.map _).trans (List.reverse_perm _).symm)
  refine Keyed.lookup_perm ?_ entries
  rw [List.map_reverse, List.map_map, List.nodup_reverse]
  exact once

theorem of_nodes_of_values (version : String) (nodes : List (Node ω)) :
    ofNodes version (ofNodes version nodes).nodes.values = ofNodes version nodes := by
  have entries : ((ofNodes version nodes).nodes.values.map fun node => (node.id, node)) = (ofNodes version nodes).nodes.entries := by
    rw [Keyed.values, List.map_map]
    refine (List.map_congr_left fun entry member => ?_).trans (List.map_id _)
    exact Prod.ext (of_nodes_named version nodes entry.1 entry.2 (Keyed.get?_eq_some_iff.mpr member)) rfl
  apply of_nodes_ext
  show Keyed.ofList ((ofNodes version nodes).nodes.values.map fun node => (node.id, node)) = _
  rw [entries, Keyed.of_list_entries]

/-- The tree of a list of nodes is canonical. If no id is listed twice, it does not depend on the order of the list; and
its own nodes make the same tree again. -/
theorem of_nodes_canonical (version : String) (nodes : List (Node Float)) :
    Canonical nodes (ofNodes version nodes) ∧
    ((nodes.map (·.id)).Nodup → ∀ others, nodes.Perm others → ofNodes version others = ofNodes version nodes) ∧
    ofNodes version (ofNodes version nodes).nodes.values = ofNodes version nodes :=
  ⟨canonical_of_nodes version nodes, fun once _ perm => of_nodes_perm once perm, of_nodes_of_values version nodes⟩

-- Two folders with equal ords below one that is not there.
def strays : List (Node Float) :=
  [⟨"b", .folder, "B", none, some "gone", Float.ofNat 1, 0, 0⟩, ⟨"a", .folder, "A", none, some "gone", Float.ofNat 1, 0, 0⟩]

theorem of_nodes_canonical_strays :
    (strays.map (·.id)).Nodup ∧ ofNodes "one" strays.reverse = ofNodes "one" strays ∧
      (ofNodes "one" strays).nodes.contains "gone" = false ∧ "a" ∈ (ofNodes "one" strays).childrenOf "gone" ∧
      (ofNodes "one" strays).children.values.flatten.count "a" = 1 := by
  have once : (strays.map (·.id)).Nodup := by decide
  have stored : (ofNodes "one" strays).nodes.get? "a" = some ⟨"a", .folder, "A", none, some "gone", Float.ofNat 1, 0, 0⟩ := by
    rfl
  obtain ⟨canonical, perm, _⟩ := of_nodes_canonical "one" strays
  refine ⟨once, perm once strays.reverse (List.reverse_perm strays).symm, by decide +kernel, ?_, ?_⟩
  · exact (canonical.placed "gone" "a").mpr ⟨_, stored, rfl⟩
  · rw [canonical.once, stored]
    rfl

end Tree

end Bookmarks
