import Bookmarks.Proofs.Rows.Allocation

/-!
Putting a row at a place among the children of a parent, whether the row is new or was somewhere else
(`child_ids_place`).
-/
set_option autoImplicit false

namespace Bookmarks.Rows

variable {ω : Type} [SiblingOrd ω] {rows after : Rows ω} {parent id : String} {index : Option Int} {ord : ω}
  {row : Row ω}

theorem Reordered.get?_eq_none {left : Option String} (reordered : Reordered rows parent left after)
    (absent : rows.get? id = none) : after.get? id = none := by
  obtain ⟨ordOf, rfl⟩ := reordered.reordered
  rw [get?_reord, absent]
  rfl

theorem Reordered.length_eq {left : Option String} (reordered : Reordered rows parent left after) :
    (after.siblings parent left).length = (rows.siblings parent left).length := by
  simpa using congrArg List.length reordered.kept

-- The other rows keep everything but their ords, which only the siblings may lose.
theorem get?_place {left : Option String} {other : String} {old : Row ω} (row : Row ω)
    (reordered : Reordered rows parent left after) (different : other ≠ id)
    (found : rows.get? other = some old) :
    ∃ changed, Keyed.get? (after.insert id row) other = some { old with ord := changed } ∧
      (old.parentId ≠ some parent → changed = old.ord) := by
  obtain ⟨ordOf, rfl⟩ := reordered.reordered
  by_cases sibling : old.parentId = some parent ∧ some other ≠ left
  · refine ⟨ordOf other, ?_, ?_⟩
    · simp [Keyed.get?_insert, different.symm, get?_reord, found, sibling]
    · intro elsewhere
      exact absurd sibling.1 elsewhere
  · refine ⟨old.ord, ?_, fun _ => rfl⟩
    simp [Keyed.get?_insert, different.symm, get?_reord, found, sibling]

theorem get?_of_place {left : Option String} {other : String} {new : Row ω}
    (reordered : Reordered rows parent left after) (different : other ≠ id)
    (found : Keyed.get? (after.insert id row) other = some new) :
    ∃ old changed, rows.get? other = some old ∧ new = { old with ord := changed } := by
  cases stored : rows.get? other with
  | none =>
      have missing := reordered.get?_eq_none stored
      rw [Keyed.get?_insert, if_neg different.symm, missing] at found
      cases found
  | some old =>
      obtain ⟨changed, now, _⟩ := get?_place row reordered different stored
      rw [now] at found
      exact ⟨old, changed, rfl, (Option.some.inj found).symm⟩

variable [LinearOrder ω]

-- No two siblings have the same ord.
def Spaced (rows : Rows ω) : Prop :=
  ∀ parent, ((rows.siblings parent none).map (·.2)).Pairwise (· < ·)

variable [AscendingOrd ω]

theorem siblings_without_absent (absent : rows.get? id = none) :
    rows.siblings parent (some id) = rows.siblings parent none := by
  apply siblings_congr
  rintro ⟨other, ord⟩
  rw [mem_siblings, mem_siblings]
  constructor
  · rintro ⟨row, found, below, value, _⟩
    exact ⟨row, found, below, value, by simp⟩
  · rintro ⟨row, found, below, value, _⟩
    refine ⟨row, found, below, value, ?_⟩
    intro same
    rw [Option.some.inj same, absent] at found
    cases found

-- For a row that is not there, it makes no difference whether it is left out.
theorem Reordered.of_absent (reordered : Reordered rows parent none after) (absent : rows.get? id = none) :
    Reordered rows parent (some id) after := by
  refine ⟨?reordered, ?kept⟩
  case reordered =>
    obtain ⟨ordOf, rfl⟩ := reordered.reordered
    refine ⟨ordOf, Keyed.ext_get? fun other => ?_⟩
    rw [get?_reord, get?_reord]
    cases found : rows.get? other with
    | none => rfl
    | some row =>
        have different : other ≠ id := by
          rintro rfl
          rw [absent] at found
          cases found
        simp [different]
  case kept =>
    rw [siblings_without_absent absent, siblings_without_absent (reordered.get?_eq_none absent)]
    exact reordered.kept

theorem Allocated.of_absent (allocated : Allocated rows parent index none ord after)
    (absent : rows.get? id = none) : Allocated rows parent index (some id) ord after := by
  have before : rows.siblings parent (some id) = rows.siblings parent none := siblings_without_absent absent
  have afterwards : after.siblings parent (some id) = after.siblings parent none :=
    siblings_without_absent (allocated.get?_eq_none absent)
  refine ⟨allocated.toReordered.of_absent absent, ?lower, ?upper, ?apart⟩
  case lower =>
    rw [before, afterwards]
    exact allocated.lower
  case upper =>
    rw [before, afterwards]
    exact allocated.upper
  case apart =>
    rw [before, afterwards]
    exact allocated.apart

theorem siblings_place (allocated : Allocated rows parent index (some id) ord after)
    (below : row.parentId = some parent) (value : row.ord = ord) :
    siblings (after.insert id row) parent none =
      (after.siblings parent (some id)).insertIdx
        (Order.insertionPosition (rows.siblings parent (some id)).length index) (id, ord) := by
  subst value
  refine siblings_insert_here below ?_ allocated.lower allocated.upper
  rw [allocated.length_eq]
  exact Order.insertion_position_le _ index

theorem siblings_place_elsewhere {other : String} (reordered : Reordered rows parent (some id) after)
    (below : row.parentId = some parent) (elsewhere : other ≠ parent) :
    siblings (after.insert id row) other none = rows.siblings other (some id) := by
  obtain ⟨ordOf, rfl⟩ := reordered.reordered
  rw [siblings_insert_elsewhere, siblings_reord_elsewhere elsewhere]
  intro same
  exact elsewhere (Option.some.inj (same.symm.trans below))

-- Wherever the row is put, the others keep their order.
theorem child_ids_others (reordered : Reordered rows parent (some id) after) (row : Row ω) (other : String) :
    (childIds (after.insert id row) other).filter (· != id) = (rows.childIds other).filter (· != id) := by
  have unmoved : siblings (after.insert id row) other (some id) = after.siblings other (some id) := by
    apply siblings_congr
    rintro ⟨child, ord⟩
    rw [mem_siblings, mem_siblings, Keyed.get?_insert]
    by_cases same : id = child
    · simp [same]
    · rw [if_neg same]
  rw [← child_ids_without, ← child_ids_without, unmoved]
  by_cases here : other = parent
  · rw [here, reordered.kept]
  · obtain ⟨ordOf, rfl⟩ := reordered.reordered
    rw [siblings_reord_elsewhere here]

theorem child_ids_elsewhere (reordered : Reordered rows parent (some id) after) (below : row.parentId = some parent)
    {other : String} (elsewhere : other ≠ parent) :
    childIds (after.insert id row) other = (rows.childIds other).filter (· != id) := by
  rw [childIds, siblings_place_elsewhere reordered below elsewhere, child_ids_without]

-- The row stands at its position among the others, which keep their order.
theorem child_ids_place (allocated : Allocated rows parent index (some id) ord after)
    (below : row.parentId = some parent) (value : row.ord = ord) (other : String) :
    childIds (after.insert id row) other =
      if other = parent then
        ((rows.childIds parent).filter (· != id)).insertIdx
          (Order.insertionPosition ((rows.childIds parent).filter (· != id)).length index) id
      else (rows.childIds other).filter (· != id) := by
  by_cases here : other = parent
  · subst here
    rw [if_pos rfl, childIds, siblings_place allocated below value, List.map_insertIdx, allocated.kept,
      ← child_ids_without, List.length_map]
  · rw [if_neg here, child_ids_elsewhere allocated.toReordered below here]

-- A row with an ord above those of all siblings stands at the end.
theorem allocated_at_end (absent : rows.get? id = none)
    (above : ∀ entry ∈ rows.siblings parent none, entry.2 < ord) :
    Allocated rows parent none (some id) ord rows := by
  refine ⟨.refl rows parent (some id), ?lower, ?upper, fun apart => apart⟩
  case lower =>
    intro entry member
    have listed := List.mem_of_mem_take member
    rw [siblings_without_absent absent] at listed
    exact above entry listed
  case upper =>
    intro entry member
    simp [Order.insertionPosition] at member

-- The next number is above the ords of all siblings again.
theorem below_next (row : Row ω) {number : Nat} (absent : rows.get? id = none)
    (below : ∀ entry ∈ rows.siblings parent none, entry.2 < SiblingOrd.ofNat number) (here : row.parentId = some parent)
    (value : row.ord = SiblingOrd.ofNat number) :
    ∀ entry ∈ siblings (rows.insert id row) parent none, entry.2 < SiblingOrd.ofNat (number + 1) := by
  intro entry member
  have step : (SiblingOrd.ofNat number : ω) < SiblingOrd.ofNat (number + 1) := AscendingOrd.of_nat_lt (Nat.lt_succ_self number)
  rw [siblings_place (allocated_at_end absent below) here value,
    List.mem_insertIdx (Order.insertion_position_le _ none)] at member
  rcases member with new | old
  · rw [new]
    exact step
  · rw [siblings_without_absent absent] at old
    exact lt_trans (below entry old) step

theorem Spaced.without (spaced : Spaced rows) (parent id : String) :
    ((rows.siblings parent (some id)).map (·.2)).Pairwise (· < ·) := by
  rw [siblings_without]
  exact (spaced parent).sublist (List.filter_sublist.map _)

theorem spaced_place (spaced : Spaced rows) (allocated : Allocated rows parent index (some id) ord after)
    (below : row.parentId = some parent) (value : row.ord = ord) : Spaced (after.insert id row) := by
  intro other
  by_cases here : other = parent
  · subst here
    rw [siblings_place allocated below value, List.map_insertIdx]
    refine pairwise_insert_idx ?_ (allocated.apart (spaced.without other id)) ?_ ?_
    · rw [List.length_map, allocated.length_eq]
      exact Order.insertion_position_le _ index
    · intro lower member
      rw [← List.map_take] at member
      obtain ⟨entry, entryMember, rfl⟩ := List.mem_map.mp member
      exact allocated.lower entry entryMember
    · intro upper member
      rw [← List.map_drop] at member
      obtain ⟨entry, entryMember, rfl⟩ := List.mem_map.mp member
      exact allocated.upper entry entryMember
  · rw [siblings_place_elsewhere allocated.toReordered below here]
    exact spaced.without other id

end Bookmarks.Rows
