import Bookmarks.Json.Text
import Bookmarks.Proofs.Text.Utf8

/-!
How long the text of a JSON value can be at most.
-/
set_option autoImplicit false

namespace Bookmarks

namespace Text

theorem Hex.digits_length (places n : Nat) : (Hex.digits places n).length = places := by
  induction places generalizing n with
  | zero => rfl
  | succ places ih => simp [Hex.digits, ih]

-- No character takes more than four bytes.
theorem bytes_length (text : String) : (bytes text).length ≤ 4 * text.length := by
  have each : ∀ chars : List Char, (chars.flatMap String.utf8EncodeChar).length ≤ 4 * chars.length := by
    intro chars
    induction chars with
    | nil => exact Nat.zero_le _
    | cons first rest ih =>
        have small := first.utf8Size_le_four
        rw [List.flatMap_cons, List.length_append, String.length_utf8EncodeChar, List.length_cons]
        omega
  rw [bytes_eq, ← String.length_toList]
  exact each text.toList

theorem bytes_short {text : String} {most : Nat} (short : 4 * text.length ≤ most) : (bytes text).length ≤ most :=
  Nat.le_trans (bytes_length text) short

end Text

namespace Json

theorem escape_length (c : Char) : (escape c).length ≤ 6 := by
  unfold escape
  split
  all_goals try decide
  split
  · exact Nat.le_of_eq (congrArg (· + 2) (Text.Hex.digits_length 4 c.toNat))
  · exact Nat.le_of_ble_eq_true rfl

theorem literal_length (text : String) : (literal text).length ≤ 6 * text.length + 2 := by
  have each : ∀ chars : List Char, (chars.flatMap escape).length ≤ 6 * chars.length := by
    intro chars
    induction chars with
    | nil => exact Nat.zero_le _
    | cons first rest ih =>
        have small := escape_length first
        rw [List.flatMap_cons, List.length_append, List.length_cons]
        omega
  have whole := each text.toList
  rw [String.length_toList] at whole
  rw [literal, String.length_ofList, List.length_append, List.length_cons, List.length_singleton]
  omega

theorem nat_length {n : Nat} (small : n < 10000000000) : (Value.nat n).compact.length ≤ 10 := by
  have digits : (Nat.toDigits 10 n).length ≤ 10 :=
    (Nat.length_toDigits_le_iff (by decide) (by decide)).mpr (by simpa using small)
  have text : (Value.nat n).compact = String.ofList (Nat.toDigits 10 n) := by
    have positive : ¬ ((n : Int) < 0) := by omega
    simp [Value.nat, Value.compact, Value.atomText, Number.text, Decimal.intText, Decimal.digitsText, positive]
  rw [text, String.length_ofList]
  exact digits

end Json

end Bookmarks
