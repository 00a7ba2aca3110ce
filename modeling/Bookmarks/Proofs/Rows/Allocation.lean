import Bookmarks.Store.Operations
import Bookmarks.Proofs.Rows.Siblings

/-!
Finding an ord for a row. Allocation always succeeds; at most it gives new ords to the siblings, and
these keep their order (`allocate_ok`).
-/
set_option autoImplicit false

namespace Bookmarks.Rows

variable {ω : Type} {rows after : Rows ω} {parent id : String} {left : Option String} {index : Option Int} {ord : ω}

-- The rows with other ords for the children of a parent, one of them left out.
def reord (rows : Rows ω) (parent : String) (left : Option String) (ordOf : String → ω) : Rows ω :=
  Keyed.map (fun id row =>
    if row.parentId = some parent ∧ some id ≠ left then { row with ord := ordOf id } else row) rows

theorem get?_reord (rows : Rows ω) (parent : String) (left : Option String) (ordOf : String → ω)
    (id : String) :
    (rows.reord parent left ordOf).get? id = (rows.get? id).map fun row =>
      if row.parentId = some parent ∧ some id ≠ left then { row with ord := ordOf id } else row :=
  Keyed.get?_map rows _ id

theorem contains_reord (rows : Rows ω) (parent : String) (left : Option String) (ordOf : String → ω) (id : String) :
    (rows.reord parent left ordOf).contains id = rows.contains id := by
  rw [Keyed.contains, get?_reord, Option.isSome_map, Keyed.contains]

theorem get?_renumber (rows : Rows ω) (numbered : List (String × ω))
    (nodup : (numbered.map (·.1)).Nodup) (id : String) :
    (rows.renumber numbered).get? id =
      match Keyed.lookup id numbered with
      | some ord => (rows.get? id).map fun row => { row with ord }
      | none => rows.get? id := by
  unfold renumber
  induction numbered generalizing rows with
  | nil => rfl
  | cons head rest ih =>
      obtain ⟨fresh, nodup⟩ := List.nodup_cons.mp nodup
      rw [List.foldl_cons, ih _ nodup, Keyed.get?_modify]
      by_cases same : head.1 = id
      · have missing : Keyed.lookup id rest = none := Keyed.lookup_eq_none_iff.mpr fun value member =>
          fresh (List.mem_map.mpr ⟨(id, value), member, same.symm⟩)
        simp [Keyed.lookup, same, missing]
      · simp [Keyed.lookup, same]

variable [SiblingOrd ω]

theorem reord_self (rows : Rows ω) (parent : String) (left : Option String) :
    rows.reord parent left (fun id => ((rows.get? id).map (·.ord)).getD (SiblingOrd.ofNat 0)) = rows := by
  apply Keyed.ext_get?
  intro id
  rw [get?_reord]
  cases found : rows.get? id <;> simp

theorem mem_siblings_reord (ordOf : String → ω) :
    (id, ord) ∈ (rows.reord parent left ordOf).siblings parent left ↔
      id ∈ (rows.siblings parent left).map (·.1) ∧ ordOf id = ord := by
  rw [mem_siblings, get?_reord, List.mem_map]
  constructor
  · rintro ⟨row, found, below, value, different⟩
    obtain ⟨old, stored, rfl⟩ := Option.map_eq_some_iff.mp found
    have oldBelow : old.parentId = some parent := by
      split at below
      · assumption
      · exact below
    rw [if_pos ⟨oldBelow, different⟩] at value
    exact ⟨⟨(id, old.ord), mem_siblings.mpr ⟨old, stored, oldBelow, rfl, different⟩, rfl⟩, value⟩
  · rintro ⟨⟨⟨other, old⟩, member, rfl⟩, rfl⟩
    obtain ⟨row, found, below, _, different⟩ := mem_siblings.mp member
    exact ⟨{ row with ord := ordOf other }, by simp [found, below, different], below, rfl, different⟩

-- The siblings with new ords, one apart.
def numbered (rows : Rows ω) (parent : String) (left : Option String) : List (String × ω) :=
  ((rows.siblings parent left).map (·.1)).zip (Order.renumbered (rows.siblings parent left).length)

theorem numbered_ids (rows : Rows ω) (parent : String) (left : Option String) :
    (rows.numbered parent left).map (·.1) = (rows.siblings parent left).map (·.1) :=
  List.map_fst_zip (by simp [Order.renumbered_length])

theorem numbered_ords (rows : Rows ω) (parent : String) (left : Option String) :
    (rows.numbered parent left).map (·.2) = Order.renumbered (rows.siblings parent left).length :=
  List.map_snd_zip (by simp [Order.renumbered_length])

theorem numbered_length (rows : Rows ω) (parent : String) (left : Option String) :
    (rows.numbered parent left).length = (rows.siblings parent left).length := by
  simp [numbered, Order.renumbered_length]

theorem numbered_nodup (rows : Rows ω) (parent : String) (left : Option String) :
    ((rows.numbered parent left).map (·.1)).Nodup :=
  numbered_ids rows parent left ▸ sibling_ids_nodup rows parent left

-- Numbering the siblings anew is a change of their ords alone.
theorem renumber_eq_reord (rows : Rows ω) (parent : String) (left : Option String) :
    rows.renumber (rows.numbered parent left) =
      rows.reord parent left fun id => (Keyed.lookup id (rows.numbered parent left)).getD (SiblingOrd.ofNat 0) := by
  apply Keyed.ext_get?
  intro id
  rw [get?_reord, get?_renumber _ _ (numbered_nodup rows parent left)]
  cases found : Keyed.lookup id (rows.numbered parent left) with
  | some ord =>
      have member : id ∈ (rows.siblings parent left).map (·.1) := by
        rw [← numbered_ids]
        exact List.mem_map.mpr ⟨(id, ord), Keyed.mem_of_lookup found, rfl⟩
      obtain ⟨⟨_, old⟩, entry, rfl⟩ := List.mem_map.mp member
      obtain ⟨row, stored, below, _, different⟩ := mem_siblings.mp entry
      simp [stored, below, different]
  | none =>
      cases stored : rows.get? id with
      | none => rfl
      | some row =>
          have unchanged : ¬ (row.parentId = some parent ∧ some id ≠ left) := by
            rintro ⟨below, different⟩
            have entry : (id, row.ord) ∈ rows.siblings parent left :=
              mem_siblings.mpr ⟨row, stored, below, rfl, different⟩
            have member : id ∈ (rows.siblings parent left).map (·.1) :=
              List.mem_map.mpr ⟨_, entry, rfl⟩
            rw [← numbered_ids] at member
            obtain ⟨⟨_, ord⟩, number, rfl⟩ := List.mem_map.mp member
            exact Keyed.lookup_eq_none_iff.mp found ord number
          simp [unchanged]

variable [LinearOrder ω]

section

variable [AscendingOrd ω]

theorem siblings_reord_elsewhere {other : String} (elsewhere : other ≠ parent) (ordOf : String → ω)
    (omitted : Option String) :
    (rows.reord parent left ordOf).siblings other omitted = rows.siblings other omitted := by
  apply siblings_congr
  rintro ⟨id, ord⟩
  rw [mem_siblings, mem_siblings, get?_reord]
  constructor
  · rintro ⟨row, found, below, value, different⟩
    obtain ⟨old, stored, rfl⟩ := Option.map_eq_some_iff.mp found
    split at below
    · rename_i changed
      exact absurd (Option.some.inj (below.symm.trans changed.1)) elsewhere
    · rename_i unchanged
      rw [if_neg unchanged] at value
      exact ⟨old, stored, below, value, different⟩
  · rintro ⟨row, found, below, value, different⟩
    refine ⟨row, ?_, below, value, different⟩
    have unchanged : ¬ (row.parentId = some parent ∧ some id ≠ left) := fun changed =>
      elsewhere (Option.some.inj (below.symm.trans changed.1))
    simp [found, unchanged]

theorem siblings_renumber (rows : Rows ω) (parent : String) (left : Option String) :
    (rows.renumber (rows.numbered parent left)).siblings parent left = rows.numbered parent left := by
  have nodup := numbered_nodup rows parent left
  rw [renumber_eq_reord rows parent left]
  refine (eq_siblings ?_ ?_ ?_).symm
  · have ascending : (Order.renumbered (rows.siblings parent left).length : List ω).Pairwise (· < ·) :=
      Order.renumbered_ascending _
    rw [← numbered_ords, List.pairwise_map] at ascending
    refine ascending.imp ?_
    intro a b less
    exact (precedes_iff a b).mpr (Or.inl less)
  · exact List.Nodup.of_map _ nodup
  · rintro ⟨id, ord⟩
    rw [mem_siblings_reord, ← Keyed.lookup_iff_of_nodup nodup, ← numbered_ids]
    constructor
    · intro found
      exact ⟨List.mem_map.mpr ⟨(id, ord), Keyed.mem_of_lookup found, rfl⟩, by simp [found]⟩
    · rintro ⟨member, value⟩
      obtain ⟨⟨_, number⟩, entry, rfl⟩ := List.mem_map.mp member
      have found := (Keyed.lookup_iff_of_nodup nodup).mpr entry
      simp only [found, Option.getD_some] at value ⊢
      rw [value]

theorem sibling_ords_ascending (rows : Rows ω) (parent : String) (left : Option String) :
    ((rows.siblings parent left).map (·.2)).Pairwise (· ≤ ·) := by
  rw [List.pairwise_map]
  refine (siblings_sorted rows parent left).imp ?_
  intro a b before
  rcases (precedes_iff a b).mp before with less | ⟨same, _⟩
  · exact le_of_lt less
  · exact le_of_eq same

end

-- The siblings, one of them left out, have at most got other ords, and stand in their order.
structure Reordered (rows : Rows ω) (parent : String) (left : Option String) (after : Rows ω) : Prop where
  reordered : ∃ ordOf, after = rows.reord parent left ordOf
  kept : (after.siblings parent left).map (·.1) = (rows.siblings parent left).map (·.1)

omit [LinearOrder ω] in
theorem Reordered.refl (rows : Rows ω) (parent : String) (left : Option String) : Reordered rows parent left rows :=
  ⟨⟨_, (reord_self rows parent left).symm⟩, rfl⟩

theorem reordered_renumber [AscendingOrd ω] (rows : Rows ω) (parent : String) (left : Option String) :
    Reordered rows parent left (rows.renumber (rows.numbered parent left)) :=
  ⟨⟨_, renumber_eq_reord rows parent left⟩, by rw [siblings_renumber, numbered_ids]⟩

-- Whatever ord is found, nobody else changes the place.
theorem reordered_of_ok [AscendingOrd ω] (found : rows.allocate parent index left = .ok (ord, after)) :
    Reordered rows parent left after := by
  cases direct : Order.allocate? ((rows.siblings parent left).map (·.2)) index with
  | some other =>
      simp only [allocate, direct] at found
      cases found
      exact .refl rows parent left
  | none =>
      simp only [allocate, direct] at found
      split at found
      · cases found
        exact reordered_renumber rows parent left
      · cases found

-- What is allocated for a place among the siblings, one of them left out.
structure Allocated (rows : Rows ω) (parent : String) (index : Option Int) (left : Option String)
    (ord : ω) (after : Rows ω) : Prop extends Reordered rows parent left after where
  lower : ∀ entry ∈ (after.siblings parent left).take
    (Order.insertionPosition (rows.siblings parent left).length index), entry.2 < ord
  upper : ∀ entry ∈ (after.siblings parent left).drop
    (Order.insertionPosition (rows.siblings parent left).length index), ord < entry.2
  apart : ((rows.siblings parent left).map (·.2)).Pairwise (· < ·) →
    ((after.siblings parent left).map (·.2)).Pairwise (· < ·)

variable [RoomyOrd ω]

theorem allocated_between (found : Order.allocate? ((after.siblings parent left).map (·.2)) index = some ord) :
    (∀ entry ∈ (after.siblings parent left).take
        (Order.insertionPosition (after.siblings parent left).length index), entry.2 < ord) ∧
      ∀ entry ∈ (after.siblings parent left).drop
        (Order.insertionPosition (after.siblings parent left).length index), ord < entry.2 := by
  obtain ⟨lower, upper⟩ := Order.allocate_between (sibling_ords_ascending after parent left) found
  rw [List.length_map] at lower upper
  constructor
  · intro entry member
    exact lower entry.2 (List.map_take ▸ List.mem_map_of_mem member)
  · intro entry member
    exact upper entry.2 (List.map_drop ▸ List.mem_map_of_mem member)

-- An ord is always found; the error after numbering anew does not occur.
theorem allocate_ok (rows : Rows ω) (parent : String) (index : Option Int) (left : Option String) :
    ∃ ord after, rows.allocate parent index left = .ok (ord, after) ∧
      Allocated rows parent index left ord after := by
  cases direct : Order.allocate? ((rows.siblings parent left).map (·.2)) index with
  | some ord =>
      obtain ⟨lower, upper⟩ := allocated_between direct
      refine ⟨ord, rows, ?_, .refl rows parent left, lower, upper, id⟩
      simp only [allocate, direct]
  | none =>
      -- the neighbours are too close, but numbered anew the siblings are one apart
      obtain ⟨ord, found⟩ : ∃ ord : ω, Order.allocate? (Order.renumbered (rows.siblings parent left).length) index =
          some ord := Order.allocate_renumbered _ index
      have listed := siblings_renumber rows parent left
      have between : Order.allocate?
          (((rows.renumber (rows.numbered parent left)).siblings parent left).map (·.2)) index = some ord := by
        rw [listed, numbered_ords]
        exact found
      obtain ⟨lower, upper⟩ := allocated_between between
      rw [listed, numbered_length] at lower upper
      refine ⟨ord, rows.renumber (rows.numbered parent left), ?_, reordered_renumber rows parent left, ?lower, ?upper,
        ?apart⟩
      · simp only [allocate, direct, found, numbered]
      case lower =>
        rw [listed]
        exact lower
      case upper =>
        rw [listed]
        exact upper
      case apart =>
        intro _
        rw [listed, numbered_ords]
        exact Order.renumbered_ascending _

theorem allocated_of_ok (found : rows.allocate parent index left = .ok (ord, after)) :
    Allocated rows parent index left ord after := by
  obtain ⟨same, others, foundSame, allocated⟩ := allocate_ok rows parent index left
  rw [found] at foundSame
  cases foundSame
  exact allocated

end Bookmarks.Rows
