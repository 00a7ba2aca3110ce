import Bookmarks.Proofs.Rows.Sound
import Bookmarks.Proofs.Tree.Loading

/-!
Trees as they should be. Sound rows are loaded as such a tree.
-/
set_option autoImplicit false

namespace Bookmarks

open Relation (ReflTransGen)

namespace Tree

variable {ω : Type}

def Below (tree : Tree ω) (child parent : String) : Prop :=
  ∃ node, tree.nodes.get? child = some node ∧ node.parentId = some parent

/-- The root is the folder that was made when the database was new, and the only node without a parent.
All other nodes are below it, and each is listed once, by its parent alone. -/
structure WellFormed [LinearOrder ω] [SiblingOrd ω] (born : Int) (tree : Tree ω) : Prop where
  rooted : tree.rootId = Bookmarks.rootId ∧ tree.nodes.get? Bookmarks.rootId =
    some ⟨Bookmarks.rootId, .folder, "Root", none, none, SiblingOrd.ofNat 0, born, born⟩
  named : ∀ id node, tree.nodes.get? id = some node → node.id = id
  single : ∀ id node, tree.nodes.get? id = some node → node.parentId = none → id = Bookmarks.rootId
  housed : ∀ id node parent, tree.nodes.get? id = some node → node.parentId = some parent →
    ∃ folder, tree.nodes.get? parent = some folder ∧ folder.kind = .folder
  anchored : ∀ id, tree.nodes.contains id = true → ReflTransGen (Below tree) id Bookmarks.rootId
  furnished : ∀ id node, tree.nodes.get? id = some node →
    node.kind = .folder ∧ node.url = none ∨
      node.kind = .bookmark ∧ ∃ url, node.url = some url ∧ Url.isWebAddress url = true
  listed : ∀ id parent, (tree.childrenOf parent).count id =
    if (tree.nodes.get? id).any (fun node => node.parentId == some parent) then 1 else 0
  ascending : ∀ parent, (tree.childrenOf parent).Pairwise fun a b =>
    ∃ left right, tree.nodes.get? a = some left ∧ tree.nodes.get? b = some right ∧ left.ord < right.ord

end Tree

namespace Rows

variable {ω : Type} [SiblingOrd ω] {rows : Rows ω} {born : Int}

omit [SiblingOrd ω] in
theorem node_kind {id : String} {row : Row ω} {kind : Kind} (named : row.kind = kind.name) :
    (nodeAt id row).kind = kind := by
  simp [nodeAt, named, Kind.ofName?_name]

theorem count_child_ids (rows : Rows ω) (id parent : String) :
    (rows.childIds parent).count id =
      if (rows.get? id).any (fun row => row.parentId == some parent) then 1 else 0 := by
  have nodup : (rows.childIds parent).Nodup := sibling_ids_nodup rows parent none
  have listed : id ∈ rows.childIds parent ↔ (rows.get? id).any (fun row => row.parentId == some parent) = true := by
    rw [mem_child_ids, Option.any_eq_true]
    simp
  by_cases member : id ∈ rows.childIds parent
  · rw [if_pos (listed.mp member), List.count_eq_one_of_mem nodup member]
  · rw [if_neg fun below => member (listed.mpr below), List.count_eq_zero_of_not_mem member]

variable [LinearOrder ω]

theorem Sound.legible (sound : Sound born rows) : Legible rows := by
  intro id row stored
  rcases sound.furnished id row stored with ⟨kind, _⟩ | ⟨kind, _⟩
  · exact ⟨.folder, kind ▸ Kind.ofName?_name .folder⟩
  · exact ⟨.bookmark, kind ▸ Kind.ofName?_name .bookmark⟩

theorem child_ords_ascending (spaced : Spaced rows) (parent : String) :
    (rows.childIds parent).Pairwise fun a b =>
      ∃ left right, rows.get? a = some left ∧ rows.get? b = some right ∧ left.ord < right.ord := by
  have ascending := spaced parent
  rw [List.pairwise_map] at ascending
  rw [childIds, List.pairwise_map]
  refine ascending.imp_of_mem ?_
  rintro ⟨a, ordA⟩ ⟨b, ordB⟩ memberA memberB less
  obtain ⟨left, foundLeft, _, rfl, _⟩ := mem_siblings.mp memberA
  obtain ⟨right, foundRight, _, rfl, _⟩ := mem_siblings.mp memberB
  exact ⟨left, right, foundLeft, foundRight, less⟩

theorem Sound.well_formed [AscendingOrd ω] (sound : Sound born rows) {version : String} {tree : Tree ω}
    (loaded : rows.tree version = .ok tree) : tree.WellFormed born := by
  obtain ⟨same, loadedSame, _, root, shown, lists⟩ := tree_ok sound.legible version
  rw [loaded] at loadedSame
  cases loadedSame
  have origin : ∀ {id node}, tree.nodes.get? id = some node → ∃ row, rows.get? id = some row ∧ node = nodeAt id row := by
    intro id node found
    rw [shown, Keyed.get?_map] at found
    obtain ⟨row, stored, rfl⟩ := Option.map_eq_some_iff.mp found
    exact ⟨row, stored, rfl⟩
  have present : ∀ {id row}, rows.get? id = some row → tree.nodes.get? id = some (nodeAt id row) := by
    intro id row stored
    rw [shown, Keyed.get?_map, stored]
    rfl
  refine ⟨⟨root, present sound.rooted⟩, ?named, ?single, ?housed, ?anchored, ?furnished, ?listed, ?ascending⟩
  case named =>
    intro id node found
    obtain ⟨row, _, rfl⟩ := origin found
    rfl
  case single =>
    intro id node found orphan
    obtain ⟨row, stored, rfl⟩ := origin found
    by_contra notRoot
    obtain ⟨parent, below, _⟩ := sound.housed id row stored notRoot
    rw [nodeAt, below] at orphan
    cases orphan
  case housed =>
    intro id node parent found below
    obtain ⟨row, stored, rfl⟩ := origin found
    have notRoot : id ≠ rootId := by
      rintro rfl
      exact not_under_root sound ⟨row, stored, below⟩
    obtain ⟨upper, belowUpper, folder, folderStored, kind⟩ := sound.housed id row stored notRoot
    have here : parent = upper := Option.some.inj (below.symm.trans belowUpper)
    subst here
    exact ⟨_, present folderStored, node_kind kind⟩
  case anchored =>
    intro id there
    rw [contains_of_tree loaded] at there
    have path := sound.anchored id there
    refine ReflTransGen.mono ?_ _ _ path
    rintro a b ⟨row, stored, below⟩
    exact ⟨_, present stored, below⟩
  case furnished =>
    intro id node found
    obtain ⟨row, stored, rfl⟩ := origin found
    rcases sound.furnished id row stored with ⟨kind, bare⟩ | ⟨kind, address⟩
    · exact Or.inl ⟨node_kind kind, bare⟩
    · exact Or.inr ⟨node_kind kind, address⟩
  case listed =>
    intro id parent
    rw [lists, count_child_ids, shown, Keyed.get?_map, Option.any_map]
    rfl
  case ascending =>
    intro parent
    rw [lists]
    refine (child_ords_ascending sound.spaced parent).imp ?_
    rintro a b ⟨left, right, foundLeft, foundRight, less⟩
    exact ⟨_, _, present foundLeft, present foundRight, less⟩

end Rows

end Bookmarks
