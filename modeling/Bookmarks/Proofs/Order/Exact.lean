import Bookmarks.Tree.Codec
import Mathlib.Algebra.Order.Field.Rat
import Mathlib.Tactic.Linarith
import Mathlib.Tactic.NormNum

/-!
Ords that are computed exactly, as rational numbers are. An ord that is allocated stands strictly between its
neighbours, also among siblings with equal ords, and siblings that are numbered anew leave room everywhere.
-/
set_option autoImplicit false

namespace Bookmarks

-- Ords that stand in one order, in which the whole numbers ascend, and that are stored as they are.
class AscendingOrd (ω : Type) [LinearOrder ω] [SiblingOrd ω] : Prop where
  order_eq : ∀ a b : ω, SiblingOrd.order a b = compare a b
  of_nat_lt : ∀ {m n : Nat}, m < n → (SiblingOrd.ofNat m : ω) < SiblingOrd.ofNat n
  stored_eq : ∀ x : ω, SiblingOrd.stored? x = some x

-- Ords that are computed exactly: one that is computed for a place stands at that place.
class RoomyOrd (ω : Type) [LinearOrder ω] [SiblingOrd ω] : Prop extends AscendingOrd ω where
  before_lt : ∀ x : ω, SiblingOrd.before x < x
  lt_after : ∀ x : ω, x < SiblingOrd.after x
  midpoint_between : ∀ {a b : ω}, SiblingOrd.tooClose a b = false →
    a < SiblingOrd.midpoint a b ∧ SiblingOrd.midpoint a b < b
  apart : ∀ n : Nat, SiblingOrd.tooClose (SiblingOrd.ofNat n : ω) (SiblingOrd.ofNat (n + 1)) = false

-- A JSON number that is no whole number is the ratio that its bits stand for.
def ratioOf (x : Float) : ℚ :=
  let s := Decimal.scaled x
  let magnitude : ℚ :=
    if 0 ≤ s.exponent then (s.significand * Nat.pow 2 s.exponent.toNat : Nat)
    else mkRat s.significand (Nat.pow 2 (-s.exponent).toNat)
  if Decimal.isFinite x then (if Decimal.isNegative x then -magnitude else magnitude) else 0

instance : WrittenOrd ℚ where
  ofNat n := n
  before x := x - 1
  after x := x + 1
  midpoint a b := (a + b) / 2
  tooClose a b := b - a < 1 / 1000000
  order := compare
  same a b := a == b
  stored? := some
  number x := if x.den = 1 then .int x.num else .float (Float.ofInt x.num / Float.ofNat x.den)
  ofNumber
    | .int n => n
    | .float x => ratioOf x

instance : RoomyOrd ℚ where
  order_eq _ _ := rfl
  of_nat_lt less := Nat.cast_lt.mpr less
  before_lt x := sub_one_lt x
  lt_after x := lt_add_one x
  midpoint_between {a b} apart := by
    have gap : ¬ b - a < 1 / 1000000 := by simpa [SiblingOrd.tooClose] using apart
    constructor
    · change a < (a + b) / 2
      linarith
    · change (a + b) / 2 < b
      linarith
  apart n := by
    have gap : ¬ ((n + 1 : Nat) : ℚ) - n < 1 / 1000000 := by norm_num
    simpa only [SiblingOrd.tooClose, SiblingOrd.ofNat, decide_eq_false_iff_not] using gap
  stored_eq _ := rfl

namespace Order

variable {ω : Type} [LinearOrder ω]

theorem insertion_position_le (count : Nat) (index : Option Int) :
    insertionPosition count index ≤ count := by
  cases index with
  | none => exact Nat.le_refl count
  | some index =>
      by_cases low : index ≤ 0
      · simp [insertionPosition, low]
      · simp only [insertionPosition, low, if_false]
        exact Nat.min_le_right _ _

theorem le_last_of_take {ords : List ω} {position : Nat} {left x : ω}
    (ascending : ords.Pairwise (· ≤ ·)) (last : (ords.take position).getLast? = some left)
    (member : x ∈ ords.take position) : x ≤ left := by
  obtain ⟨front, split⟩ := List.getLast?_eq_some_iff.mp last
  have ordered := ascending.sublist (List.take_sublist position ords)
  rw [split] at ordered member
  rcases List.mem_append.mp member with earlier | here
  · exact (List.pairwise_append.mp ordered).2.2 x earlier left List.mem_cons_self
  · exact le_of_eq (List.mem_singleton.mp here)

theorem first_le_of_drop {ords : List ω} {position : Nat} {right x : ω}
    (ascending : ords.Pairwise (· ≤ ·)) (first : (ords.drop position).head? = some right)
    (member : x ∈ ords.drop position) : right ≤ x := by
  obtain ⟨rest, split⟩ := List.head?_eq_some_iff.mp first
  have ordered := ascending.sublist (List.drop_sublist position ords)
  rw [split] at ordered member
  rcases List.mem_cons.mp member with here | later
  · exact le_of_eq here.symm
  · exact (List.pairwise_cons.mp ordered).1 x later

section

variable [SiblingOrd ω]

omit [LinearOrder ω] in
theorem renumbered_length (count : Nat) : (renumbered count : List ω).length = count := by
  simp [renumbered]

theorem renumbered_ascending [AscendingOrd ω] (count : Nat) : (renumbered count : List ω).Pairwise (· < ·) := by
  unfold renumbered
  rw [List.pairwise_map]
  exact List.pairwise_lt_range.imp AscendingOrd.of_nat_lt

variable [RoomyOrd ω]

-- An ord that is allocated is above all before its position and below all behind it.
theorem allocate_between {ords : List ω} {index : Option Int} {ord : ω}
    (ascending : ords.Pairwise (· ≤ ·)) (found : allocate? ords index = some ord) :
    (∀ x ∈ ords.take (insertionPosition ords.length index), x < ord) ∧
      ∀ x ∈ ords.drop (insertionPosition ords.length index), ord < x := by
  unfold allocate? at found
  generalize insertionPosition ords.length index = position at found ⊢
  cases last : (ords.take position).getLast? with
  | none =>
      have front : ords.take position = [] := List.getLast?_eq_none_iff.mp last
      cases first : (ords.drop position).head? with
      | none =>
          have back : ords.drop position = [] := List.head?_eq_none_iff.mp first
          simp [front, back]
      | some right =>
          simp only [last, first, Option.some.injEq] at found
          refine ⟨by simp [front], fun x member => ?_⟩
          rw [← found]
          exact lt_of_lt_of_le (RoomyOrd.before_lt right) (first_le_of_drop ascending first member)
  | some left =>
      cases first : (ords.drop position).head? with
      | none =>
          have back : ords.drop position = [] := List.head?_eq_none_iff.mp first
          simp only [last, first, Option.some.injEq] at found
          refine ⟨fun x member => ?_, by simp [back]⟩
          rw [← found]
          exact lt_of_le_of_lt (le_last_of_take ascending last member) (RoomyOrd.lt_after left)
      | some right =>
          simp only [last, first] at found
          split at found
          · cases found
          · rename_i apart
            obtain ⟨above, below⟩ := RoomyOrd.midpoint_between (Bool.eq_false_iff.mpr apart)
            rw [← Option.some.inj found]
            constructor
            · intro x member
              exact lt_of_le_of_lt (le_last_of_take ascending last member) above
            · intro x member
              exact lt_of_lt_of_le below (first_le_of_drop ascending first member)

omit [LinearOrder ω] [RoomyOrd ω] in
theorem allocate_none {ords : List ω} {index : Option Int} (tight : allocate? ords index = none) :
    ∃ position left right, (ords.take position).getLast? = some left ∧
      (ords.drop position).head? = some right ∧ SiblingOrd.tooClose left right = true := by
  unfold allocate? at tight
  generalize insertionPosition ords.length index = position at tight
  cases last : (ords.take position).getLast? with
  | none => cases first : (ords.drop position).head? <;> simp only [last, first] at tight <;> cases tight
  | some left =>
      cases first : (ords.drop position).head? with
      | none =>
          simp only [last, first] at tight
          cases tight
      | some right =>
          refine ⟨position, left, right, last, first, ?_⟩
          simp only [last, first] at tight
          split at tight
          · assumption
          · cases tight

-- Among siblings numbered anew there is room everywhere.
theorem allocate_renumbered (count : Nat) (index : Option Int) :
    ∃ ord, allocate? (renumbered count : List ω) index = some ord := by
  cases tight : allocate? (renumbered count : List ω) index with
  | some ord => exact ⟨ord, rfl⟩
  | none =>
      exfalso
      obtain ⟨position, left, right, last, first, close⟩ := allocate_none tight
      rw [List.head?_drop] at first
      rw [List.getLast?_eq_getElem?, List.length_take, renumbered_length] at last
      obtain ⟨inside, rightValue⟩ := List.getElem?_eq_some_iff.mp first
      obtain ⟨before, leftValue⟩ := List.getElem?_eq_some_iff.mp last
      rw [renumbered_length] at inside
      rw [List.length_take, renumbered_length, Nat.min_eq_left inside.le] at before
      simp only [renumbered, List.getElem_take, List.getElem_map, List.getElem_range,
        Nat.min_eq_left inside.le] at leftValue rightValue
      have next : position = position - 1 + 1 := by omega
      rw [next] at rightValue
      rw [← leftValue, ← rightValue, RoomyOrd.apart] at close
      cases close

end

end Order

end Bookmarks
