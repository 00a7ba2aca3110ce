import Bookmarks.Proofs.Order.Exact

/-!
Binary numbers as ords. All of them stand in one linear order, and two of them are equal if they stand for one
number (`same_iff`). Only what stands for no number is not equal to itself (`same_self_iff`).
-/
set_option autoImplicit false

namespace Bookmarks

open Float.Model (UnpackedFloat)
open Float.Model.UnpackedFloat (Sign)

-- The order is one, and nodes that are equal in their ords are so both ways and at one remove.
class LawfulOrd (ω : Type) [SiblingOrd ω] : Prop where
  ordered : Std.TransCmp (SiblingOrd.order : ω → ω → Ordering)
  same_symm : ∀ a b : ω, SiblingOrd.same a b = true → SiblingOrd.same b a = true
  same_trans : ∀ a b c : ω, SiblingOrd.same a b = true → SiblingOrd.same b c = true → SiblingOrd.same a c = true

attribute [instance] LawfulOrd.ordered

namespace Decimal

theorem order_key_injective {x y : Float} (same : orderKey x = orderKey y) : x = y := by
  have small (x : Float) : x.toBits.toNat < 0x10000000000000000 := x.toBits.toNat_lt
  have patterns : x.toBits.toNat = y.toBits.toNat := by
    have left := small x
    have right := small y
    unfold orderKey isNegative at same
    simp only [decide_eq_true_eq] at same
    split at same <;> split at same <;> omega
  have bits : x.toBits = y.toBits := UInt64.toNat_inj.mp patterns
  obtain ⟨⟨left, _⟩⟩ := x
  obtain ⟨⟨right, _⟩⟩ := y
  cases (show left = right from bits)
  rfl

-- The number that is stood for, whatever the sign of a zero; none for what is no number.
def numberOf : UnpackedFloat → Option (Option (Sign × Option (Int × Nat)))
  | .notANumber => none
  | .zero _ => some none
  | .infinity sign => some (some (sign, none))
  | .finite sign mantissa exponent _ => some (some (sign, some (exponent, mantissa)))

theorem beq_iff (a b : UnpackedFloat) : a.beq b = true ↔ numberOf a = numberOf b ∧ numberOf a ≠ none := by
  have swapped (order : Ordering) : order.swap = .eq ↔ order = .eq := by cases order <;> simp
  have apart {P Q R : Prop} (former : ¬ P) (latter : ¬ Q) : P ↔ Q ∧ R := ⟨fun p => absurd p former, fun q => absurd q.1 latter⟩
  have parts (sign : Sign) (e f : Int) (m n : Nat) : (compare e f).then (compare m n) = .eq ↔
      some (some (sign, some (e, m))) = some (some (sign, some (f, n))) ∧ some (some (sign, some (e, m))) ≠ none := by
    simp
  unfold UnpackedFloat.beq
  rw [beq_iff_eq]
  cases a with
  | notANumber => exact ⟨nofun, fun equal => absurd rfl equal.2⟩
  | zero =>
      cases b with
      | infinity other => cases other <;> exact apart nofun nofun
      | finite other => cases other <;> exact apart nofun nofun
      | notANumber => exact apart nofun nofun
      | zero => exact ⟨fun _ => ⟨rfl, nofun⟩, fun _ => rfl⟩
  | infinity sign =>
      cases b with
      | infinity other =>
          cases sign <;> cases other
          · exact ⟨fun _ => ⟨rfl, nofun⟩, fun _ => rfl⟩
          · exact apart nofun nofun
          · exact apart nofun nofun
          · exact ⟨fun _ => ⟨rfl, nofun⟩, fun _ => rfl⟩
      | finite => cases sign <;> exact apart nofun nofun
      | notANumber => exact apart nofun nofun
      | zero => cases sign <;> exact apart nofun nofun
  | finite sign m e =>
      cases b with
      | infinity other => cases other <;> exact apart nofun nofun
      | finite other n f =>
          cases sign <;> cases other
          · exact Option.some_inj.trans ((swapped _).trans (parts .negative e f m n))
          · exact apart nofun nofun
          · exact apart nofun nofun
          · exact Option.some_inj.trans (parts .positive e f m n)
      | notANumber => exact apart nofun nofun
      | zero => cases sign <;> exact apart nofun nofun

theorem same_iff {x y : Float} : SiblingOrd.same x y = true ↔
    numberOf x.toModel.unpack = numberOf y.toModel.unpack ∧ numberOf x.toModel.unpack ≠ none :=
  beq_iff x.toModel.unpack y.toModel.unpack

theorem same_self_iff {x : Float} : SiblingOrd.same x x = true ↔ x.isNaN = false := by
  rw [same_iff, eq_self, true_and]
  unfold Float.isNaN Float.Model.isNaN
  cases x.toModel.unpack with
  | notANumber => exact ⟨fun number => absurd rfl number, nofun⟩
  | zero => exact ⟨fun _ => rfl, nofun⟩
  | infinity => exact ⟨fun _ => rfl, nofun⟩
  | finite => exact ⟨fun _ => rfl, nofun⟩

end Decimal

instance : LawfulOrd Float where
  ordered := inferInstanceAs (Std.TransCmp (compareOn Decimal.orderKey))
  same_symm _ _ same := by
    obtain ⟨equal, isNumber⟩ := Decimal.same_iff.mp same
    exact Decimal.same_iff.mpr ⟨equal.symm, equal ▸ isNumber⟩
  same_trans _ _ _ first second := by
    obtain ⟨equal, isNumber⟩ := Decimal.same_iff.mp first
    exact Decimal.same_iff.mpr ⟨equal.trans (Decimal.same_iff.mp second).1, isNumber⟩

instance : LawfulOrd ℚ where
  ordered := inferInstanceAs (Std.TransCmp (compare : ℚ → ℚ → Ordering))
  same_symm _ _ same := beq_iff_eq.mpr (beq_iff_eq.mp same).symm
  same_trans _ _ _ first second := beq_iff_eq.mpr ((beq_iff_eq.mp first).trans (beq_iff_eq.mp second))

end Bookmarks
