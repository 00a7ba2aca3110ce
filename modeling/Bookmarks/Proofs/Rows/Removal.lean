import Bookmarks.Proofs.Reach
import Bookmarks.Proofs.Rows.Siblings

/-!
Deleting rows: what goes is exactly what is below them.
-/
set_option autoImplicit false

namespace Bookmarks.Rows

open Relation (ReflTransGen)

-- One row is directly below another.
def Under {ω : Type} (rows : Rows ω) (child parent : String) : Prop :=
  ∃ row, rows.get? child = some row ∧ row.parentId = some parent

section

variable {ω : Type} {rows : Rows ω} {id other parent : String}

theorem under_erase : Under (rows.erase id) other parent ↔ other ≠ id ∧ Under rows other parent := by
  unfold Under
  rw [Keyed.get?_erase]
  by_cases same : id = other
  · simp [same]
  · simp [same, Ne.symm same]

theorem mem_ids_below : other ∈ rows.idsBelow parent ↔ Under rows other parent := by
  unfold idsBelow Under
  rw [List.mem_map]
  constructor
  · rintro ⟨⟨_, row⟩, member, rfl⟩
    obtain ⟨stored, below⟩ := List.mem_filter.mp member
    exact ⟨row, Keyed.get?_eq_some_iff.mpr stored, by simpa [isBelow] using below⟩
  · rintro ⟨row, found, below⟩
    exact ⟨(other, row), List.mem_filter.mpr ⟨Keyed.get?_eq_some_iff.mp found, by simp [isBelow, below]⟩, rfl⟩

-- The row is one of those that are to be deleted, or below one of them.
def Doomed (rows : Rows ω) (ids : List String) (id : String) : Prop :=
  ∃ top, (top ∈ ids ∧ rows.contains top = true) ∧ ReflTransGen (Under rows) id top

theorem doomed_visit (rows : Rows ω) (rest : List String) (there : rows.contains id = true) (place : String) :
    Doomed rows (id :: rest) place ↔
      place = id ∨ Doomed (rows.erase id) (idsBelow (rows.erase id) id ++ rest) place := by
  unfold Doomed
  refine below_start_iff (fun top => top ∈ id :: rest ∧ rows.contains top = true) _
    ⟨List.mem_cons_self, there⟩ ?_ ?_ ?_ ?_ ?_ place
  · intro a b step
    exact (under_erase.mp step).2
  · intro a b step different _
    exact under_erase.mpr ⟨different, step⟩
  · rintro a ⟨member, present⟩
    rcases List.mem_append.mp member with below | waiting
    · exact Or.inr (under_erase.mp (mem_ids_below.mp below)).2
    · refine Or.inl ⟨List.mem_cons_of_mem _ waiting, ?_⟩
      obtain ⟨row, found⟩ := Keyed.contains_iff.mp present
      rw [Keyed.get?_erase] at found
      split at found
      · cases found
      · exact Keyed.contains_iff.mpr ⟨row, found⟩
  · rintro a ⟨member, present⟩ different
    obtain ⟨row, found⟩ := Keyed.contains_iff.mp present
    refine ⟨List.mem_append_right _ ((List.mem_cons.mp member).resolve_left different), ?_⟩
    exact Keyed.contains_iff.mpr ⟨row, by rw [Keyed.get?_erase, if_neg (Ne.symm different), found]⟩
  · intro a step different
    have below := under_erase.mpr ⟨different, step⟩
    refine ⟨List.mem_append_left _ (mem_ids_below.mpr below), ?_⟩
    obtain ⟨row, found, _⟩ := below
    exact Keyed.contains_iff.mpr ⟨row, found⟩

theorem doomed_skip (rows : Rows ω) (rest : List String) (absent : rows.get? id = none) (place : String) :
    Doomed rows (id :: rest) place ↔ Doomed rows rest place := by
  constructor
  · rintro ⟨top, ⟨member, present⟩, path⟩
    rcases List.mem_cons.mp member with same | waiting
    · obtain ⟨row, found⟩ := Keyed.contains_iff.mp present
      rw [same, absent] at found
      cases found
    · exact ⟨top, ⟨waiting, present⟩, path⟩
  · rintro ⟨top, ⟨member, present⟩, path⟩
    exact ⟨top, ⟨List.mem_cons_of_mem _ member, present⟩, path⟩

-- Exactly the doomed rows are deleted, and the others stay as they are.
theorem get?_removeAll (rows : Rows ω) (ids : List String) (place : String) :
    (Doomed rows ids place → (rows.removeAll ids).get? place = none) ∧
      (¬ Doomed rows ids place → (rows.removeAll ids).get? place = rows.get? place) := by
  fun_induction removeAll rows ids with
  | case1 rows =>
      constructor
      · rintro ⟨_, ⟨member, _⟩, _⟩
        cases member
      · intro _
        rfl
  | case2 rows id rest row found ih =>
      have visit := doomed_visit rows rest (Keyed.contains_iff.mpr ⟨row, found⟩) place
      constructor
      · intro doomed
        by_cases later : Doomed (rows.erase id) (idsBelow (rows.erase id) id ++ rest) place
        · exact ih.1 later
        · -- it is not deleted later, so it is the row that is deleted now
          have same := (visit.mp doomed).resolve_right later
          rw [ih.2 later, Keyed.get?_erase, if_pos same.symm]
      · intro spared
        have different : place ≠ id := fun same => spared (visit.mpr (Or.inl same))
        rw [ih.2 fun later => spared (visit.mpr (Or.inr later)), Keyed.get?_erase,
          if_neg (Ne.symm different)]
  | case3 rows id rest absent ih =>
      rw [doomed_skip rows rest absent]
      exact ih

theorem doomed_one_iff : Doomed rows [id] other ↔ rows.contains id = true ∧ ReflTransGen (Under rows) other id := by
  constructor
  · rintro ⟨top, ⟨member, present⟩, path⟩
    rw [List.mem_singleton.mp member] at present path
    exact ⟨present, path⟩
  · rintro ⟨present, path⟩
    exact ⟨id, ⟨List.mem_singleton_self id, present⟩, path⟩

theorem Doomed.below {ids : List String} (doomed : Doomed rows ids parent) (step : Under rows other parent) :
    Doomed rows ids other := by
  obtain ⟨top, isTop, path⟩ := doomed
  exact ⟨top, isTop, .head step path⟩

theorem under_removeAll {ids : List String} :
    Under (rows.removeAll ids) other parent ↔ ¬ Doomed rows ids other ∧ Under rows other parent := by
  obtain ⟨gone, kept⟩ := get?_removeAll rows ids other
  by_cases doomed : Doomed rows ids other
  · simp [Under, gone doomed, doomed]
  · simp [Under, kept doomed, doomed]

end

section

open Classical

variable {ω : Type} [LinearOrder ω] [SiblingOrd ω] [AscendingOrd ω] {rows : Rows ω} {id parent : String}

theorem siblings_removeAll (rows : Rows ω) (ids : List String) (parent : String) :
    (rows.removeAll ids).siblings parent none =
      (rows.siblings parent none).filter fun entry => ¬ Doomed rows ids entry.1 := by
  refine (eq_siblings ?_ ?_ ?_).symm
  · exact (siblings_sorted rows parent none).filter _
  · exact (siblings_nodup rows parent none).filter _
  · rintro ⟨other, ord⟩
    obtain ⟨gone, kept⟩ := get?_removeAll rows ids other
    rw [List.mem_filter, mem_siblings, mem_siblings]
    by_cases doomed : Doomed rows ids other
    · simp [doomed, gone doomed]
    · simp [doomed, kept doomed]

-- Whoever stays loses at most the row that is deleted, and whoever goes takes all children along.
theorem child_ids_remove (present : rows.contains id = true) (parent : String) :
    (Doomed rows [id] parent → childIds (rows.removeAll [id]) parent = []) ∧
      (¬ Doomed rows [id] parent →
        childIds (rows.removeAll [id]) parent = (rows.childIds parent).filter (· != id)) := by
  unfold childIds
  rw [siblings_removeAll]
  constructor
  · intro doomed
    rw [List.map_eq_nil_iff, List.filter_eq_nil_iff]
    rintro ⟨other, ord⟩ member
    obtain ⟨row, found, below, _⟩ := mem_siblings.mp member
    simpa using doomed.below ⟨row, found, below⟩
  · intro spared
    rw [List.filter_map]
    congr 1
    apply List.filter_congr
    rintro ⟨other, ord⟩ member
    obtain ⟨row, found, below, _⟩ := mem_siblings.mp member
    have only : Doomed rows [id] other ↔ other = id := by
      constructor
      · intro doomed
        obtain ⟨_, path⟩ := doomed_one_iff.mp doomed
        -- a child that is further below the deleted row would take its parent along
        rcases ReflTransGen.cases_head path with same | ⟨upper, ⟨again, foundAgain, belowUpper⟩, rest⟩
        · exact same
        · rw [found] at foundAgain
          rw [← Option.some.inj foundAgain, below] at belowUpper
          rw [← Option.some.inj belowUpper] at rest
          exact absurd (doomed_one_iff.mpr ⟨present, rest⟩) spared
      · rintro rfl
        exact doomed_one_iff.mpr ⟨present, .refl⟩
    rw [Bool.eq_iff_iff]
    simp [only]

end

end Bookmarks.Rows
