import Bookmarks.Proofs.Json.RoundTrip

/-!
A value with one entry a line is read as the value, as it is from one line. What is read of a number alone is read of
it wherever it stands (`of_glyphs_number`), so nothing else has to be known of how numbers are written.
-/
set_option autoImplicit false

namespace Bookmarks.Json

open Bookmarks.Text (Glyph glyphsOf)

namespace Token

variable {text rest : List Glyph}

section Numbers

theorem leading_digits_before (text : List Glyph) (ends : prolongs rest = false) :
    leadingDigits (text ++ rest) = leadingDigits text := by
  induction text with
  | nil => exact leading_digits_append (List.forall_mem_nil _) ends
  | cons first text ih =>
      cases first with
      | none => rfl
      | some c => rw [List.cons_append, leadingDigits, ih, leadingDigits]

theorem leading_digits_length (text : List Glyph) : (leadingDigits text).length ≤ text.length := by
  induction text with
  | nil => exact Nat.le_refl 0
  | cons first text ih =>
      cases first with
      | none => exact Nat.zero_le _
      | some c =>
          rw [leadingDigits]
          split
          · exact Nat.succ_le_succ ih
          · exact Nat.zero_le _

theorem fraction_other {first : Glyph} (other : first ≠ some '.') (text : List Glyph) :
    fraction? (first :: text) = some (none, 0) := by
  unfold fraction?
  split
  · rename_i same
    cases same
    exact absurd rfl other
  · rfl

theorem fraction_before (text : List Glyph) (ends : prolongs rest = false) :
    fraction? (text ++ rest) = fraction? text := by
  cases text with
  | nil => exact fraction_absent ends
  | cons first text =>
      by_cases point : first = some '.'
      · subst point
        simp only [List.cons_append, fraction?, leading_digits_before text ends]
      · rw [List.cons_append, fraction_other point, fraction_other point]

theorem fraction_length {fraction : Option (List Char)} {length : Nat}
    (found : fraction? text = some (fraction, length)) : length ≤ text.length := by
  unfold fraction? at found
  split at found
  · rename_i digits
    have bounded := leading_digits_length digits
    split at found
    · cases found
    · cases found
      rw [List.length_cons]
      omega
  · cases found
    exact Nat.zero_le _

-- The sign of an exponent, and how long it is.
def signOf : List Glyph → Bool × Nat
  | some '-' :: _ => (true, 1)
  | some '+' :: _ => (false, 1)
  | _ => (false, 0)

theorem sign_before {text : List Glyph} (nonempty : text ≠ []) (rest : List Glyph) :
    signOf (text ++ rest) = signOf text := by
  cases text with
  | nil => exact absurd rfl nonempty
  | cons first text =>
      rw [List.cons_append]
      unfold signOf
      split <;> simp_all

theorem sign_length (text : List Glyph) : (signOf text).2 ≤ text.length := by
  unfold signOf
  split <;> simp

theorem exponent_marked {mark : Char} (marked : mark = 'e' ∨ mark = 'E') (text : List Glyph) :
    exponent? (some mark :: text) =
      match leadingDigits (text.drop (signOf text).2) with
      | [] => none
      | digits => some (some ((signOf text).1, digits), digits.length + (signOf text).2 + 1) := by
  simp only [exponent?, if_pos marked]
  rfl

theorem exponent_before {result : Option (Bool × List Char) × Nat} (found : exponent? text = some result)
    (ends : prolongs rest = false) : exponent? (text ++ rest) = some result ∧ result.2 ≤ text.length := by
  match text, found with
  | [], found =>
      cases found
      exact ⟨exponent_absent ends, Nat.le_refl 0⟩
  | none :: text, found =>
      cases found
      exact ⟨rfl, Nat.zero_le _⟩
  | some mark :: text, found =>
      by_cases marked : mark = 'e' ∨ mark = 'E'
      · have nonempty : text ≠ [] := by
          rintro rfl
          rw [exponent_marked marked] at found
          cases found
        have within := sign_length text
        have digits := leading_digits_length (text.drop (signOf text).2)
        rw [List.length_drop] at digits
        rw [exponent_marked marked] at found
        rw [List.cons_append, exponent_marked marked, sign_before nonempty, List.drop_append_of_le_length within,
          leading_digits_before _ ends]
        refine ⟨found, ?_⟩
        split at found
        · cases found
        · cases found
          simp only [List.length_cons]
          omega
      · simp only [List.cons_append, exponent?, if_neg marked] at found ⊢
        cases found
        exact ⟨rfl, Nat.zero_le _⟩

-- A literal that ends with a text ends where something else begins.
theorem literal_before {negative : Bool} {literal : Decimal.Literal} {length : Nat}
    (found : literal? negative text = some (literal, length)) (ends : prolongs rest = false) :
    literal? negative (text ++ rest) = some (literal, length) ∧ length ≤ text.length := by
  have whole := leading_digits_length text
  rw [literal?] at found ⊢
  rw [leading_digits_before text ends]
  split at found
  · cases found
  · rename_i led
    rw [if_neg led]
    simp only [Option.bind_eq_bind, Option.bind_eq_some_iff] at found ⊢
    obtain ⟨⟨fraction, pointLength⟩, pointed, ⟨exponent, markLength⟩, marked, same⟩ := found
    have point := fraction_length pointed
    rw [List.length_drop] at point
    obtain ⟨markedToo, mark⟩ := exponent_before marked ends
    rw [List.length_drop] at mark
    cases same
    refine ⟨⟨_, ?pointed, _, ?marked, rfl⟩, ?within⟩
    case pointed => rw [List.drop_append_of_le_length whole, fraction_before _ ends, pointed]
    case marked =>
      rw [List.drop_append_of_le_length (by omega)]
      exact markedToo
    case within =>
      simp only at mark
      omega

theorem number_before {negative : Bool} {token : Token} {length : Nat}
    (found : number? negative text = some (token, length)) (ends : prolongs rest = false) :
    number? negative (text ++ rest) = some (token, length) ∧ length ≤ text.length := by
  obtain ⟨⟨literal, size⟩, read, same⟩ := Option.map_eq_some_iff.mp found
  obtain ⟨readToo, within⟩ := literal_before read ends
  cases same
  exact ⟨Option.map_eq_some_iff.mpr ⟨_, readToo, rfl⟩, within⟩

theorem token_of_word {letters : String} {token : Token} {result : Token × Nat}
    (read : word? letters token text = some result) : result.1 = token := by
  unfold word? at read
  split at read
  · cases read
    rfl
  · cases read

-- A number begins with a digit or with its sign.
theorem after_before {first : Glyph} {number : Option Number} {further : Nat}
    (found : after? first text = some (.num number, further)) (ends : prolongs rest = false) :
    after? first (text ++ rest) = some (.num number, further) ∧ further ≤ text.length := by
  by_cases minus : first = some '-'
  · subst minus
    exact number_before found ends
  · by_cases digit : ∃ c, first = some c ∧ c.isDigit = true
    · obtain ⟨c, rfl, digit⟩ := digit
      rw [after_digit digit] at found ⊢
      obtain ⟨⟨token, length⟩, read, same⟩ := Option.map_eq_some_iff.mp found
      obtain ⟨readToo, within⟩ := number_before read ends
      cases same
      rw [List.length_cons] at within
      exact ⟨Option.map_eq_some_iff.mpr ⟨_, readToo, rfl⟩, by omega⟩
    · exfalso
      unfold after? at found
      split at found
      case h_7 =>
        obtain ⟨_, _, same⟩ := Option.map_eq_some_iff.mp found
        cases same
      case h_8 => cases token_of_word found
      case h_9 => cases token_of_word found
      case h_10 => cases token_of_word found
      case h_11 => exact minus rfl
      case h_12 c _ _ _ _ _ _ _ _ _ _ _ =>
        rw [if_neg fun isDigit => digit ⟨c, rfl, isDigit⟩] at found
        cases found
      all_goals cases found

theorem of_glyphs_blank (blank : ofGlyphs text = []) (rest : List Glyph) : ofGlyphs (text ++ rest) = ofGlyphs rest := by
  induction text with
  | nil => rfl
  | cons first text ih =>
      rw [ofGlyphs] at blank
      split at blank
      · rename_i space
        rw [List.cons_append, ofGlyphs, if_pos space, ih blank]
      · split at blank <;> cases blank

-- What is read as a number alone is read as this number before everything that does not belong to one.
theorem of_glyphs_number {number : Option Number} (alone : ofGlyphs text = [.num number])
    (ends : prolongs rest = false) :
    ofGlyphs (text ++ rest) = .num number :: ofGlyphs rest := by
  induction text with
  | nil =>
      rw [ofGlyphs] at alone
      cases alone
  | cons first text ih =>
      rw [ofGlyphs] at alone
      split at alone
      · rename_i space
        rw [List.cons_append, ofGlyphs, if_pos space, ih alone]
      · rename_i dense
        split at alone
        · rename_i token further read
          obtain ⟨rfl, behind⟩ := List.cons.inj alone
          obtain ⟨readToo, within⟩ := after_before read ends
          rw [List.cons_append, of_glyphs_after (Bool.eq_false_iff.mpr dense) readToo,
            List.drop_append_of_le_length within, of_glyphs_blank behind]
        · cases alone

end Numbers

theorem of_glyphs_space {first : Glyph} (space : isSpace first = true) (rest : List Glyph) :
    ofGlyphs (first :: rest) = ofGlyphs rest := by
  rw [ofGlyphs, if_pos space]

theorem of_glyphs_line (level : Nat) (rest : List Glyph) :
    ofGlyphs (glyphsOf (Value.newLine level) ++ rest) = ofGlyphs rest := by
  have indent (count : Nat) : ofGlyphs ((List.replicate count ' ').map some ++ rest) = ofGlyphs rest := by
    induction count with
    | zero => rfl
    | succ count ih => rw [List.replicate_succ, List.map_cons, List.cons_append, of_glyphs_space rfl, ih]
  rw [glyphsOf, Value.newLine, String.toList_ofList, List.map_cons, List.cons_append, of_glyphs_space rfl, indent]

-- A new line ends a number.
theorem ends_of_line (level : Nat) (rest : List Glyph) : prolongs (glyphsOf (Value.newLine level) ++ rest) = false := by
  rw [glyphsOf, Value.newLine, String.toList_ofList]
  rfl

end Token

open Token
open Value (newLine)

theorem readable_of_alone {n : Number} (alone : ofGlyphs (glyphsOf n.text) = [.num (some n)]) : n.Readable :=
  fun _ ends => of_glyphs_number alone ends

mutual

theorem Value.of_glyphs_pretty (value : Value) (level : Nat) (readable : value.Readable) (rest : List Glyph)
    (ends : prolongs rest = false) :
    ofGlyphs (glyphsOf (value.pretty level) ++ rest) = value.tokens ++ ofGlyphs rest := by
  match value, readable with
  | .null, _ => exact of_glyphs_null rest
  | .bool b, _ => exact of_glyphs_bool rest b
  | .num n, readable => exact readable rest ends
  | .str s, _ => exact of_glyphs_literal s rest
  | .arr [], _ =>
      have shape : glyphsOf ((Value.arr []).pretty level) ++ rest = some '[' :: some ']' :: rest := by
        simp [Value.pretty, Value.atomText, glyphsOf]
      rw [shape, of_glyphs_mark _ rfl rfl, of_glyphs_mark _ rfl rfl]
      rfl
  | .obj [], _ =>
      have shape : glyphsOf ((Value.obj []).pretty level) ++ rest = some '\x7b' :: some '\x7d' :: rest := by
        simp [Value.pretty, Value.atomText, glyphsOf]
      rw [shape, of_glyphs_mark _ rfl rfl, of_glyphs_mark _ rfl rfl]
      rfl
  | .arr (item :: more), readable =>
      have inside := Value.of_glyphs_item_lines (item :: more) (level + 1) level readable rest
      have shape : glyphsOf ((Value.arr (item :: more)).pretty level) ++ rest = some '[' ::
          (glyphsOf (Value.prettyItems (level + 1) (item :: more)) ++ (glyphsOf (newLine level) ++ some ']' :: rest)) := by
        simp [Value.pretty, glyphsOf]
      rw [shape, of_glyphs_mark _ rfl rfl, inside, Value.tokens, List.cons_append]
  | .obj (member :: more), readable =>
      have inside := Value.of_glyphs_member_lines (member :: more) (level + 1) level readable rest
      have shape : glyphsOf ((Value.obj (member :: more)).pretty level) ++ rest = some '\x7b' ::
          (glyphsOf (Value.prettyMembers (level + 1) (member :: more)) ++
            (glyphsOf (newLine level) ++ some '\x7d' :: rest)) := by
        simp [Value.pretty, glyphsOf]
      rw [shape, of_glyphs_mark _ rfl rfl, inside, Value.tokens, List.cons_append]

theorem Value.of_glyphs_item_lines (items : List Value) (level outer : Nat) (readable : Value.ItemsReadable items)
    (rest : List Glyph) :
    ofGlyphs (glyphsOf (Value.prettyItems level items) ++ (glyphsOf (newLine outer) ++ some ']' :: rest)) =
      Value.itemTokens items ++ ofGlyphs rest := by
  match items, readable with
  | [], _ => exact (of_glyphs_line outer _).trans (of_glyphs_mark rest rfl rfl)
  | [last], readable =>
      have here := Value.of_glyphs_pretty last level readable.1 _ (ends_of_line outer (some ']' :: rest))
      have shape : glyphsOf (Value.prettyItems level [last]) ++ (glyphsOf (newLine outer) ++ some ']' :: rest) =
          glyphsOf (newLine level) ++ (glyphsOf (last.pretty level) ++ (glyphsOf (newLine outer) ++ some ']' :: rest)) := by
        simp [Value.prettyItems, glyphsOf]
      rw [shape, of_glyphs_line, here, of_glyphs_line, of_glyphs_mark _ rfl rfl, Value.itemTokens, List.append_assoc,
        List.singleton_append]
  | item :: second :: more, readable =>
      have later := Value.of_glyphs_item_lines (second :: more) level outer readable.2 rest
      have here := Value.of_glyphs_pretty item level readable.1 _
        (ends_of_mark (glyphsOf (Value.prettyItems level (second :: more)) ++ (glyphsOf (newLine outer) ++ some ']' :: rest))
          ',' rfl)
      have shape : glyphsOf (Value.prettyItems level (item :: second :: more)) ++ (glyphsOf (newLine outer) ++ some ']' :: rest) =
          glyphsOf (newLine level) ++ (glyphsOf (item.pretty level) ++ some ',' ::
            (glyphsOf (Value.prettyItems level (second :: more)) ++ (glyphsOf (newLine outer) ++ some ']' :: rest))) := by
        simp [Value.prettyItems, glyphsOf]
      rw [shape, of_glyphs_line, here, of_glyphs_mark _ rfl rfl, later]
      simp [Value.itemTokens]

theorem Value.of_glyphs_member_lines (members : List (String × Value)) (level outer : Nat)
    (readable : Value.MembersReadable members) (rest : List Glyph) :
    ofGlyphs (glyphsOf (Value.prettyMembers level members) ++ (glyphsOf (newLine outer) ++ some '\x7d' :: rest)) =
      Value.memberTokens members ++ ofGlyphs rest := by
  match members, readable with
  | [], _ => exact (of_glyphs_line outer _).trans (of_glyphs_mark rest rfl rfl)
  | [last], readable =>
      have here := Value.of_glyphs_pretty last.2 level readable.1 _ (ends_of_line outer (some '\x7d' :: rest))
      have shape : glyphsOf (Value.prettyMembers level [last]) ++ (glyphsOf (newLine outer) ++ some '\x7d' :: rest) =
          glyphsOf (newLine level) ++ (glyphsOf (literal last.1) ++ some ':' :: some ' ' ::
            (glyphsOf (last.2.pretty level) ++ (glyphsOf (newLine outer) ++ some '\x7d' :: rest))) := by
        simp [Value.prettyMembers, glyphsOf]
      rw [shape, of_glyphs_line, of_glyphs_literal, of_glyphs_mark _ rfl rfl, of_glyphs_space rfl, here, of_glyphs_line,
        of_glyphs_mark _ rfl rfl]
      simp [Value.memberTokens]
  | member :: second :: more, readable =>
      have later := Value.of_glyphs_member_lines (second :: more) level outer readable.2 rest
      have here := Value.of_glyphs_pretty member.2 level readable.1 _
        (ends_of_mark (glyphsOf (Value.prettyMembers level (second :: more)) ++
          (glyphsOf (newLine outer) ++ some '\x7d' :: rest)) ',' rfl)
      have shape : glyphsOf (Value.prettyMembers level (member :: second :: more)) ++
            (glyphsOf (newLine outer) ++ some '\x7d' :: rest) =
          glyphsOf (newLine level) ++ (glyphsOf (literal member.1) ++ some ':' :: some ' ' ::
            (glyphsOf (member.2.pretty level) ++ some ',' ::
              (glyphsOf (Value.prettyMembers level (second :: more)) ++ (glyphsOf (newLine outer) ++ some '\x7d' :: rest)))) := by
        simp [Value.prettyMembers, glyphsOf]
      rw [shape, of_glyphs_line, of_glyphs_literal, of_glyphs_mark _ rfl rfl, of_glyphs_space rfl, here,
        of_glyphs_mark _ rfl rfl, later]
      simp [Value.memberTokens]

end

-- The text in lines, with one more line behind it, holds the value and nothing else.
theorem source_of_pretty {value : Value} (readable : value.Readable) :
    Source.ofBytes (Text.bytes (value.pretty 0 ++ "\n")) = ⟨value.document, true⟩ := by
  have split : glyphsOf (value.pretty 0 ++ "\n") = glyphsOf (value.pretty 0) ++ [some '\n'] := by
    simp [glyphsOf]
  have tokens := value.of_glyphs_pretty 0 readable [some '\n'] rfl
  have blank : ofGlyphs [some '\n'] = [] := by rw [of_glyphs_space rfl, ofGlyphs]
  have read := value.read_tokens [] []
  rw [blank, List.append_nil] at tokens
  rw [List.append_nil] at read
  rw [Source.ofBytes, Text.glyphs_bytes, split, tokens, Source.ofTokens, read]
  rfl

theorem of_source_pretty {α : Type} (decode : Decoder α) {value : Value} (readable : value.Readable) :
    decode.ofSource (Source.ofBytes (Text.bytes (value.pretty 0 ++ "\n"))) = decode .ofText value.document := by
  rw [source_of_pretty readable, Decoder.ofSource]
  cases decode .ofText value.document <;> rfl

end Bookmarks.Json
