import Bookmarks.Proofs.Order.Binary
import Bookmarks.Proofs.Tree.Changes

/-!
The difference of two trees. Whoever takes over the nodes that differ, and no fewer, has the nodes of the other tree,
and what differs after many steps differs after one of them (`differences_exact`).
-/
set_option autoImplicit false

namespace Bookmarks

namespace Node

variable {ω : Type} [SiblingOrd ω] {a b c : Node ω}

theorem same_iff : a.same b = true ↔ a.id = b.id ∧ a.kind = b.kind ∧ a.title = b.title ∧ a.url = b.url ∧
    a.parentId = b.parentId ∧ SiblingOrd.same a.ord b.ord = true ∧ a.createdAt = b.createdAt ∧ a.updatedAt = b.updatedAt := by
  simp only [same, Bool.and_eq_true, beq_iff_eq, and_assoc]

theorem same_self (number : SiblingOrd.same a.ord a.ord = true) : a.same a = true :=
  same_iff.mpr ⟨rfl, rfl, rfl, rfl, rfl, number, rfl, rfl⟩

variable [LawfulOrd ω]

theorem same_symm (equal : a.same b = true) : b.same a = true := by
  obtain ⟨id, kind, title, url, parent, ord, created, updated⟩ := same_iff.mp equal
  exact same_iff.mpr ⟨id.symm, kind.symm, title.symm, url.symm, parent.symm, LawfulOrd.same_symm _ _ ord,
    created.symm, updated.symm⟩

theorem same_trans (first : a.same b = true) (second : b.same c = true) : a.same c = true := by
  obtain ⟨id, kind, title, url, parent, ord, created, updated⟩ := same_iff.mp first
  obtain ⟨id', kind', title', url', parent', ord', created', updated'⟩ := same_iff.mp second
  exact same_iff.mpr ⟨id.trans id', kind.trans kind', title.trans title', url.trans url', parent.trans parent',
    LawfulOrd.same_trans _ _ _ ord ord', created.trans created', updated.trans updated'⟩

end Node

namespace Tree

variable {ω : Type} [SiblingOrd ω] {before after : Tree ω} {id : String}

-- Equal nodes, or no node here and none there.
def Match : Option (Node ω) → Option (Node ω) → Prop
  | none, none => True
  | some a, some b => a.same b = true
  | none, some _ => False
  | some _, none => False

-- The same ids in both tables, with nodes that are equal.
def Matching (left right : Keyed (Node ω)) : Prop := ∀ id, Match (left.get? id) (right.get? id)

-- The nodes of a tree once those of another one are taken over under some ids.
def updatedAt (before after : Tree ω) (ids : List String) : Keyed (Node ω) := ids.foldl (Keyed.adopt after.nodes) before.nodes

-- All the ids that are named on the way from one tree to the next.
def changedAlong (before : Tree ω) : List (Tree ω) → List String
  | [] => []
  | next :: rest => next.changedSince before ++ next.changedAlong rest

def Numbered (tree : Tree ω) : Prop := ∀ id node, tree.nodes.get? id = some node → SiblingOrd.same node.ord node.ord = true

theorem matching_self {tree : Tree ω} (numbered : tree.Numbered) : Matching tree.nodes tree.nodes := by
  intro id
  cases found : tree.nodes.get? id with
  | none => trivial
  | some node => exact Node.same_self (numbered id node found)

variable [LawfulOrd ω]

theorem Match.symm {left right : Option (Node ω)} (agree : Match left right) : Match right left := by
  cases left with
  | none => cases right with
      | none => trivial
      | some _ => cases agree
  | some _ => cases right with
      | none => cases agree
      | some _ => exact Node.same_symm agree

theorem Match.trans {left middle right : Option (Node ω)} (first : Match left middle) (second : Match middle right) :
    Match left right := by
  cases middle with
  | none => cases left with
      | none => exact second
      | some _ => cases first
  | some _ => cases left with
      | none => cases first
      | some _ => cases right with
          | none => cases second
          | some _ => exact Node.same_trans first second

theorem not_differs_iff : ¬ Differs before after id ↔ Match (before.nodes.get? id) (after.nodes.get? id) := by
  unfold Differs
  cases before.nodes.get? id with
  | none => cases after.nodes.get? id <;> simp [Match]
  | some old => cases after.nodes.get? id with
      | none => simp [Match]
      | some new =>
          rw [Bool.not_eq_false]
          exact ⟨Node.same_symm, Node.same_symm⟩

theorem differs_symm : Differs before after id ↔ Differs after before id := by
  rw [← not_iff_not, not_differs_iff, not_differs_iff]
  exact ⟨Match.symm, Match.symm⟩

-- Where neither of two steps changes a node, both together do not.
theorem differs_trans (between : Tree ω) (differs : Differs before after id) :
    Differs before between id ∨ Differs between after id := by
  by_contra neither
  obtain ⟨first, second⟩ := not_or.mp neither
  exact not_differs_iff.mpr ((not_differs_iff.mp first).trans (not_differs_iff.mp second)) differs

theorem changed_since_symm (before after : Tree ω) : after.changedSince before = before.changedSince after := by
  have nodup (before after : Tree ω) : (after.changedSince before).Nodup := Keyed.keys_nodup _
  have same : ∀ id, id ∈ after.changedSince before ↔ id ∈ before.changedSince after := by
    intro id
    rw [mem_changed_since, mem_changed_since, differs_symm]
  refine ((List.perm_ext_iff_of_nodup (nodup before after) (nodup after before)).mpr same).eq_of_pairwise ?_
    (changed_since_ascending before after) (changed_since_ascending after before)
  intro a b _ _ less more
  exact absurd (String.lt_trans less more) (String.lt_irrefl a)

-- The ids that have to be taken over are those that differ.
theorem matching_updated_iff (before : Tree ω) (numbered : after.Numbered) (ids : List String) :
    Matching (before.updatedAt after ids) after.nodes ↔ ∀ id ∈ after.changedSince before, id ∈ ids := by
  unfold Matching updatedAt
  simp only [Keyed.get?_foldl_adopt]
  constructor
  · intro matching id changed
    by_contra kept
    have related := matching id
    rw [if_neg kept] at related
    exact not_differs_iff.mpr related (mem_changed_since.mp changed)
  · intro covered id
    by_cases taken : id ∈ ids
    · rw [if_pos taken]
      exact matching_self numbered id
    · rw [if_neg taken]
      exact not_differs_iff.mp fun differs => taken (covered id (mem_changed_since.mpr differs))

-- What differs in the end is named at some step on the way.
theorem mem_changed_along {rest : List (Tree ω)} (numbered : before.Numbered) (all : ∀ tree ∈ rest, tree.Numbered)
    (differs : id ∈ (rest.getLastD before).changedSince before) : id ∈ before.changedAlong rest := by
  induction rest generalizing before with
  | nil =>
      have same := not_differs_iff.mpr (matching_self numbered id)
      exact absurd (mem_changed_since.mp differs) same
  | cons next rest ih =>
      rw [List.getLastD_cons] at differs
      rcases differs_trans next (mem_changed_since.mp differs) with here | later
      · exact List.mem_append_left _ (mem_changed_since.mpr here)
      · have more := ih (all next List.mem_cons_self) (fun tree member => all tree (List.mem_cons_of_mem _ member))
          (mem_changed_since.mpr later)
        exact List.mem_append_right _ more

theorem numbered_iff {tree : Tree Float} :
    tree.Numbered ↔ ∀ id node, tree.nodes.get? id = some node → node.ord.isNaN = false := by
  simp only [Numbered, Decimal.same_self_iff]

/-- Where all ords are numbers the ids that differ are the least that have to be taken over from one tree to have the nodes
of the other. They ascend and are the same in both directions. On the way over several trees every id that
differs in the end is named at one of the steps. -/
theorem differences_exact (before between after : Tree Float)
    (numbersBefore : ∀ id node, before.nodes.get? id = some node → node.ord.isNaN = false)
    (numbersBetween : ∀ id node, between.nodes.get? id = some node → node.ord.isNaN = false) :
    (between.changedSince before).Pairwise (· < ·) ∧
    between.changedSince before = before.changedSince between ∧
    Matching (before.updatedAt between (between.changedSince before)) between.nodes ∧
    (∀ ids, Matching (before.updatedAt between ids) between.nodes → ∀ id ∈ between.changedSince before, id ∈ ids) ∧
    (∀ id ∈ after.changedSince before, id ∈ between.changedSince before ∨ id ∈ after.changedSince between) ∧
    ∀ rest : List (Tree Float), (∀ tree ∈ rest, ∀ id node, tree.nodes.get? id = some node → node.ord.isNaN = false) →
      ∀ id ∈ (rest.getLastD before).changedSince before, id ∈ before.changedAlong rest := by
  have exact := matching_updated_iff before (numbered_iff.mpr numbersBetween)
  refine ⟨changed_since_ascending before between, changed_since_symm before between, (exact _).mpr fun _ => id,
    fun ids => (exact ids).mp, ?_, ?_⟩
  · intro id differs
    rw [mem_changed_since, mem_changed_since]
    exact differs_trans between (mem_changed_since.mp differs)
  · intro rest all id differs
    exact mem_changed_along (numbered_iff.mpr numbersBefore) (fun tree member => numbered_iff.mpr (all tree member)) differs

-- A tree of one folder below the root, or of none.
def onlyFolder (title : Option String) : Tree Float :=
  ofNodes uninitialized (title.toList.map fun title => ⟨"x", .folder, title, none, some Bookmarks.rootId, Float.ofNat 1, 0, 0⟩)

theorem only_folder_numbers (title : Option String) (id : String) (node : Node Float)
    (found : (onlyFolder title).nodes.get? id = some node) : node.ord.isNaN = false := by
  have listed := Keyed.mem_of_get?_of_list found
  cases title with
  | none => cases listed
  | some title =>
      cases List.mem_singleton.mp listed
      show (Float.ofNat 1).isNaN = false
      decide +kernel

-- A folder that vanishes comes back under another title.
theorem differences_exact_vanished :
    (onlyFolder none).changedSince (onlyFolder (some "A")) = ["x"] ∧
    Matching ((onlyFolder (some "A")).updatedAt (onlyFolder none) ["x"]) (onlyFolder none).nodes ∧
    ¬ Matching ((onlyFolder (some "A")).updatedAt (onlyFolder none) []) (onlyFolder none).nodes ∧
    (onlyFolder (some "B")).changedSince (onlyFolder (some "A")) = ["x"] ∧
    "x" ∈ (onlyFolder (some "A")).changedAlong [onlyFolder none, onlyFolder (some "B")] := by
  have gone : (onlyFolder none).changedSince (onlyFolder (some "A")) = ["x"] := by decide +kernel
  have net : (onlyFolder (some "B")).changedSince (onlyFolder (some "A")) = ["x"] := by decide +kernel
  obtain ⟨_, _, enough, least, _, along⟩ := differences_exact (onlyFolder (some "A")) (onlyFolder none) (onlyFolder (some "B"))
    (only_folder_numbers _) (only_folder_numbers _)
  rw [gone] at enough least
  refine ⟨gone, enough, fun matching => ?_, net, along _ ?_ "x" (by rw [List.getLastD_cons, List.getLastD_cons]; simp [net])⟩
  · cases least [] matching "x" List.mem_cons_self
  · simp only [List.forall_mem_cons]
    exact ⟨only_folder_numbers _, only_folder_numbers _, List.forall_mem_nil _⟩

end Tree

end Bookmarks
