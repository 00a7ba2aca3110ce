import Bookmarks.Text.Blank
import Mathlib.Data.List.DropRight

/-!
Trimming a text at both ends. What was trimmed once stays as it is (`trim_both_idempotent`), and it does not matter
whether characters that are trimmed at the ends are taken out everywhere before or after (`trim_both_filter`).
-/
set_option autoImplicit false

namespace Bookmarks.Text

variable {drop keep : Char → Bool} {text : List Char}

theorem drop_while_eq_self (kept : trimBoth drop text = text) : text.dropWhile drop = text := by
  apply List.IsSuffix.eq_of_length (List.dropWhile_suffix drop)
  have whole : (trimBoth drop text).length = text.length := by rw [kept]
  have shorter : (trimBoth drop text).length ≤ (text.dropWhile drop).length := by
    have reversed : (text.dropWhile drop).reverse.length = (text.dropWhile drop).length := List.length_reverse
    unfold trimBoth
    rw [List.length_reverse, ← reversed]
    exact (List.dropWhile_suffix drop).length_le
  have bounded : (text.dropWhile drop).length ≤ text.length := (List.dropWhile_suffix drop).length_le
  omega

-- What is dropped at the ends of a longer text is not dropped from this one.
theorem trim_both_append_one {c : Char} (kept : trimBoth drop text = text) (some : text ≠ [])
    (dropped : drop c = true) :
    trimBoth drop (text ++ [c]) = text := by
  have front := drop_while_eq_self kept
  have back : text.reverse.dropWhile drop = text.reverse := by
    unfold trimBoth at kept
    rw [front] at kept
    rw [← List.reverse_reverse (text.reverse.dropWhile drop), kept]
  cases text with
  | nil => exact absurd rfl some
  | cons first rest =>
      have solid : ¬ drop first = true := by
        intro blank
        have shorter : (rest.dropWhile drop).length ≤ rest.length := (List.dropWhile_suffix drop).length_le
        rw [List.dropWhile_cons, if_pos blank] at front
        rw [front, List.length_cons] at shorter
        omega
      unfold trimBoth
      rw [List.cons_append, List.dropWhile_cons, if_neg solid, ← List.cons_append, List.reverse_append,
        List.reverse_singleton, List.singleton_append, List.dropWhile_cons, if_pos dropped, back, List.reverse_reverse]

theorem drop_while_of_none (solid : ∀ c ∈ text, drop c = false) : text.dropWhile drop = text := by
  cases text with
  | nil => rfl
  | cons first rest => rw [List.dropWhile_cons, solid first List.mem_cons_self, if_neg Bool.false_ne_true]

theorem trim_both_of_none (solid : ∀ c ∈ text, drop c = false) : trimBoth drop text = text := by
  have reversed : ∀ c ∈ text.reverse, drop c = false := fun c member => solid c (List.mem_reverse.mp member)
  rw [trimBoth, drop_while_of_none solid, drop_while_of_none reversed, List.reverse_reverse]

theorem drop_while_of_prefix {front : List Char} (kept : text.dropWhile drop = text) (start : front <+: text) :
    front.dropWhile drop = front := by
  cases front with
  | nil => rfl
  | cons first rest =>
      obtain ⟨behind, rfl⟩ := start
      have solid : drop first = false := by
        by_contra blank
        have shorter : ((rest ++ behind).dropWhile drop).length ≤ (rest ++ behind).length :=
          (List.dropWhile_suffix drop).length_le
        rw [List.cons_append, List.dropWhile_cons, if_pos (Bool.not_eq_false _ ▸ blank)] at kept
        rw [kept, List.length_cons] at shorter
        omega
      rw [List.dropWhile_cons, solid, if_neg Bool.false_ne_true]

theorem trim_both_sublist (drop : Char → Bool) (text : List Char) : (trimBoth drop text).Sublist text :=
  (List.rdropWhile_prefix drop (text.dropWhile drop)).sublist.trans (List.dropWhile_suffix drop).sublist

theorem trim_both_idempotent (drop : Char → Bool) (text : List Char) :
    trimBoth drop (trimBoth drop text) = trimBoth drop text := by
  have front : (trimBoth drop text).dropWhile drop = trimBoth drop text :=
    drop_while_of_prefix (List.dropWhile_idempotent drop text) (List.rdropWhile_prefix drop (text.dropWhile drop))
  have back : (trimBoth drop text).rdropWhile drop = trimBoth drop text :=
    List.rdropWhile_idempotent drop (text.dropWhile drop)
  calc trimBoth drop (trimBoth drop text)
      = ((trimBoth drop text).dropWhile drop).rdropWhile drop := rfl
    _ = (trimBoth drop text).rdropWhile drop := by rw [front]
    _ = trimBoth drop text := back

theorem drop_while_filter (text : List Char) (loose : ∀ c, keep c = false → drop c = true) :
    (text.filter keep).dropWhile drop = (text.dropWhile drop).filter keep := by
  induction text with
  | nil => rfl
  | cons first rest ih =>
      by_cases dropped : drop first = true
      · by_cases kept : keep first = true
        · rw [List.filter_cons_of_pos kept, List.dropWhile_cons_of_pos dropped, List.dropWhile_cons_of_pos dropped, ih]
        · rw [List.filter_cons_of_neg kept, List.dropWhile_cons_of_pos dropped, ih]
      · have kept : keep first = true := by
          by_contra lost
          exact dropped (loose first (Bool.not_eq_true _ ▸ lost))
        rw [List.filter_cons_of_pos kept, List.dropWhile_cons_of_neg dropped, List.dropWhile_cons_of_neg dropped,
          List.filter_cons_of_pos kept]

theorem trim_both_filter (text : List Char) (loose : ∀ c, keep c = false → drop c = true) :
    trimBoth drop (text.filter keep) = (trimBoth drop text).filter keep := by
  unfold trimBoth
  rw [drop_while_filter text loose, ← List.filter_reverse, drop_while_filter _ loose, ← List.filter_reverse]

end Bookmarks.Text
