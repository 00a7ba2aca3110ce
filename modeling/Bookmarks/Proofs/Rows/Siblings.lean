import Bookmarks.Store.Rows
import Bookmarks.Proofs.Keyed
import Bookmarks.Proofs.Order.Exact
import Mathlib.Data.List.InsertIdx
import Mathlib.Data.List.Nodup

/-!
The children of a row in their order. The list is determined by what is in it (`eq_siblings`), so a
change of the rows is a change of one entry of one list.
-/
set_option autoImplicit false

namespace Bookmarks.Rows

variable {ω : Type} [SiblingOrd ω] {rows after : Rows ω} {parent id : String} {left : Option String}

theorem mem_siblings {ord : ω} :
    (id, ord) ∈ rows.siblings parent left ↔
      ∃ row, rows.get? id = some row ∧ row.parentId = some parent ∧ row.ord = ord ∧ some id ≠ left := by
  unfold siblings
  rw [List.mem_mergeSort, List.mem_map]
  constructor
  · rintro ⟨⟨other, row⟩, member, same⟩
    obtain ⟨rfl, rfl⟩ := Prod.mk.inj same
    obtain ⟨stored, kept⟩ := List.mem_filter.mp member
    simp only [isBelow, Bool.and_eq_true, beq_iff_eq, bne_iff_ne] at kept
    exact ⟨row, Keyed.get?_eq_some_iff.mpr stored, kept.1, rfl, kept.2⟩
  · rintro ⟨row, found, below, rfl, different⟩
    refine ⟨(id, row), List.mem_filter.mpr ⟨Keyed.get?_eq_some_iff.mp found, ?_⟩, rfl⟩
    simp [isBelow, below, different]

theorem sibling_ids_nodup (rows : Rows ω) (parent : String) (left : Option String) :
    ((rows.siblings parent left).map (·.1)).Nodup := by
  unfold siblings
  refine ((List.mergeSort_perm _ _).map _).nodup_iff.mpr ?_
  rw [List.map_map]
  exact (Keyed.keys_nodup rows).sublist (List.filter_sublist.map _)

theorem siblings_nodup (rows : Rows ω) (parent : String) (left : Option String) :
    (rows.siblings parent left).Nodup :=
  List.Nodup.of_map _ (sibling_ids_nodup rows parent left)

-- The ids of the rows below a parent, in their order.
def childIds (rows : Rows ω) (parent : String) : List String :=
  (rows.siblings parent none).map (·.1)

theorem mem_child_ids : id ∈ rows.childIds parent ↔
    ∃ row, rows.get? id = some row ∧ row.parentId = some parent := by
  unfold childIds
  rw [List.mem_map]
  constructor
  · rintro ⟨⟨other, ord⟩, member, rfl⟩
    obtain ⟨row, found, below, _⟩ := mem_siblings.mp member
    exact ⟨row, found, below⟩
  · rintro ⟨row, found, below⟩
    exact ⟨(id, row.ord), mem_siblings.mpr ⟨row, found, below, rfl, by simp⟩, rfl⟩

variable [LinearOrder ω] [AscendingOrd ω]

theorem precedes_iff (a b : String × ω) :
    precedes a b = true ↔ a.2 < b.2 ∨ a.2 = b.2 ∧ (compare a.1 b.1).isLE = true := by
  unfold precedes
  rw [AscendingOrd.order_eq]
  rcases lt_trichotomy a.2 b.2 with less | same | more
  · simp [compare_lt_iff_lt.mpr less, less]
  · cases compare a.1 b.1 <;> simp [same]
  · simp [compare_gt_iff_gt.mpr more, not_lt_of_gt more, more.ne']

theorem precedes_trans (a b c : String × ω) (ab : precedes a b = true) (bc : precedes b c = true) :
    precedes a c = true := by
  rw [precedes_iff] at ab bc ⊢
  rcases ab with ab | ⟨sameAb, ab⟩
  · rcases bc with bc | ⟨sameBc, bc⟩
    · exact Or.inl (lt_trans ab bc)
    · exact Or.inl (sameBc ▸ ab)
  · rcases bc with bc | ⟨sameBc, bc⟩
    · exact Or.inl (sameAb ▸ bc)
    · exact Or.inr ⟨sameAb.trans sameBc, Std.TransCmp.isLE_trans ab bc⟩

theorem precedes_total (a b : String × ω) : (precedes a b || precedes b a) = true := by
  rw [Bool.or_eq_true, precedes_iff, precedes_iff]
  rcases lt_trichotomy a.2 b.2 with less | same | more
  · exact Or.inl (Or.inl less)
  · cases byId : compare a.1 b.1 with
    | gt =>
        have swapped : compare b.1 a.1 = .lt := Std.OrientedCmp.gt_iff_lt.mp byId
        exact Or.inr (Or.inr ⟨same.symm, by simp [swapped]⟩)
    | lt => exact Or.inl (Or.inr ⟨same, rfl⟩)
    | eq => exact Or.inl (Or.inr ⟨same, rfl⟩)
  · exact Or.inr (Or.inl more)

theorem precedes_antisymm (a b : String × ω) (ab : precedes a b = true) (ba : precedes b a = true) :
    a = b := by
  rw [precedes_iff] at ab ba
  rcases ab with ab | ⟨same, ab⟩
  · rcases ba with ba | ⟨same, -⟩
    · exact absurd ba (lt_asymm ab)
    · exact absurd same.symm ab.ne
  · rcases ba with ba | ⟨-, ba⟩
    · exact absurd same.symm ba.ne
    · exact Prod.ext (Std.LawfulEqCmp.eq_of_compare (Std.OrientedCmp.isLE_antisymm ab ba)) same

theorem siblings_sorted (rows : Rows ω) (parent : String) (left : Option String) :
    (rows.siblings parent left).Pairwise fun a b => precedes a b = true :=
  List.pairwise_mergeSort precedes_trans precedes_total _

-- A list in order with the right entries is the list of siblings.
theorem eq_siblings {listed : List (String × ω)}
    (sorted : listed.Pairwise fun a b => precedes a b = true) (nodup : listed.Nodup)
    (same : ∀ entry, entry ∈ listed ↔ entry ∈ rows.siblings parent left) :
    listed = rows.siblings parent left := by
  have perm := (List.perm_ext_iff_of_nodup nodup (siblings_nodup rows parent left)).mpr same
  exact perm.eq_of_pairwise (fun a b _ _ => precedes_antisymm a b) sorted
    (siblings_sorted rows parent left)

theorem siblings_congr {other : String} {omitted : Option String}
    (same : ∀ entry, entry ∈ rows.siblings parent left ↔ entry ∈ after.siblings other omitted) :
    rows.siblings parent left = after.siblings other omitted :=
  eq_siblings (siblings_sorted rows parent left) (siblings_nodup rows parent left) same

theorem siblings_without (rows : Rows ω) (parent id : String) :
    rows.siblings parent (some id) = (rows.siblings parent none).filter fun entry => entry.1 != id := by
  refine (eq_siblings ?_ ?_ ?_).symm
  · exact (siblings_sorted rows parent none).filter _
  · exact (siblings_nodup rows parent none).filter _
  · rintro ⟨other, ord⟩
    rw [List.mem_filter, mem_siblings, mem_siblings]
    simp only [bne_iff_ne, ne_eq, reduceCtorEq, not_false_eq_true, and_true, Option.some.injEq]
    constructor
    · rintro ⟨⟨row, found, below, value⟩, different⟩
      exact ⟨row, found, below, value, different⟩
    · rintro ⟨row, found, below, value, different⟩
      exact ⟨⟨row, found, below, value⟩, different⟩

theorem insert_idx_split {α : Type} (entries : List α) (entry : α) (position : Nat)
    (inside : position ≤ entries.length) :
    entries.insertIdx position entry = entries.take position ++ entry :: entries.drop position := by
  induction entries generalizing position with
  | nil =>
      have start : position = 0 := Nat.le_zero.mp inside
      simp [start]
  | cons head rest ih =>
      cases position with
      | zero => simp
      | succ n => simp [List.insertIdx_succ_cons, ih n (Nat.le_of_succ_le_succ inside)]

theorem pairwise_insert_idx {α : Type} {before : α → α → Prop} {entries : List α} {entry : α}
    {position : Nat} (inside : position ≤ entries.length) (sorted : entries.Pairwise before)
    (below : ∀ other ∈ entries.take position, before other entry)
    (above : ∀ other ∈ entries.drop position, before entry other) :
    (entries.insertIdx position entry).Pairwise before := by
  rw [insert_idx_split entries entry position inside, List.pairwise_append]
  refine ⟨sorted.sublist (List.take_sublist _ _), ?_, ?_⟩
  · exact List.pairwise_cons.mpr ⟨above, sorted.sublist (List.drop_sublist _ _)⟩
  · intro first member second later
    rcases List.mem_cons.mp later with here | behind
    · exact here ▸ below first member
    · rw [← List.take_append_drop position entries] at sorted
      exact (List.pairwise_append.mp sorted).2.2 first member second behind

-- A row that is put below a parent, between the neighbours that its ord asks for.
theorem siblings_insert_here {row : Row ω} {position : Nat} (below : row.parentId = some parent)
    (inside : position ≤ (rows.siblings parent (some id)).length)
    (lower : ∀ entry ∈ (rows.siblings parent (some id)).take position, entry.2 < row.ord)
    (upper : ∀ entry ∈ (rows.siblings parent (some id)).drop position, row.ord < entry.2) :
    siblings (rows.insert id row) parent none =
      (rows.siblings parent (some id)).insertIdx position (id, row.ord) := by
  have absent : ∀ ord, (id, ord) ∉ rows.siblings parent (some id) := by
    intro ord member
    obtain ⟨_, _, _, _, different⟩ := mem_siblings.mp member
    exact different rfl
  refine (eq_siblings ?_ ?_ ?_).symm
  · refine pairwise_insert_idx inside (siblings_sorted rows parent (some id)) ?_ ?_
    · intro entry member
      exact (precedes_iff _ _).mpr (Or.inl (lower entry member))
    · intro entry member
      exact (precedes_iff _ _).mpr (Or.inl (upper entry member))
  · refine pairwise_insert_idx inside (siblings_nodup rows parent (some id)) ?_ ?_
    · intro entry member same
      exact absent _ (same ▸ List.mem_of_mem_take member)
    · intro entry member same
      exact absent _ (same ▸ List.mem_of_mem_drop member)
  · rintro ⟨other, ord⟩
    rw [List.mem_insertIdx inside, mem_siblings, mem_siblings]
    simp only [Keyed.get?_insert, Prod.mk.injEq, ne_eq, reduceCtorEq, not_false_eq_true, and_true,
      Option.some.injEq]
    by_cases same : id = other
    · subst same
      simp only [true_and, if_true, Option.some.injEq, not_true_eq_false, and_false, exists_false, or_false]
      constructor
      · intro value
        exact ⟨row, rfl, below, value.symm⟩
      · rintro ⟨_, rfl, _, value⟩
        exact value.symm
    · simp [same, Ne.symm same]

theorem siblings_insert_elsewhere {row : Row ω} (elsewhere : row.parentId ≠ some parent) :
    siblings (rows.insert id row) parent none = rows.siblings parent (some id) := by
  apply siblings_congr
  rintro ⟨other, ord⟩
  rw [mem_siblings, mem_siblings]
  simp only [Keyed.get?_insert, ne_eq, reduceCtorEq, not_false_eq_true, and_true, Option.some.injEq]
  by_cases same : id = other
  · subst same
    constructor
    · rintro ⟨found, value, below, _⟩
      simp only [if_true, Option.some.injEq] at value
      subst value
      exact absurd below elsewhere
    · rintro ⟨_, _, _, _, different⟩
      exact absurd rfl different
  · simp [same, Ne.symm same]

theorem child_ids_without (rows : Rows ω) (parent id : String) :
    (rows.siblings parent (some id)).map (·.1) = (rows.childIds parent).filter (· != id) := by
  rw [siblings_without, childIds, List.filter_map]
  rfl

end Bookmarks.Rows
