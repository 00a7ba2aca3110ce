import Bookmarks.Json.Text
import Bookmarks.Json.Token

/-!
The text of a value as tokens. Strings come back whatever is in them, whole numbers as far as 64 bits
hold them; a number is the only token whose end depends on what follows it.
-/
set_option autoImplicit false

namespace Bookmarks.Json

open Bookmarks.Text (Glyph glyphsOf)

namespace Token

-- The text goes on with something that could still belong to a number.
def prolongs : List Glyph → Bool
  | some c :: _ => c.isDigit || c == '.' || c == 'e' || c == 'E'
  | _ => false

variable {rest : List Glyph}

theorem of_glyphs_after {first : Glyph} {token : Token} {further : Nat} (dense : isSpace first = false)
    (read : after? first rest = some (token, further)) :
    ofGlyphs (first :: rest) = token :: ofGlyphs (rest.drop further) := by
  rw [ofGlyphs, read]
  simp [dense]

section Numbers

theorem leading_digits_append {digits : List Char} (all : ∀ c ∈ digits, c.isDigit = true)
    (ends : prolongs rest = false) : leadingDigits (digits.map some ++ rest) = digits := by
  induction digits with
  | nil =>
      rw [List.map_nil, List.nil_append]
      match rest, ends with
      | [], _ => rfl
      | none :: _, _ => rfl
      | some c :: _, ends =>
          have other : c.isDigit = false := by
            simp only [prolongs, Bool.or_eq_false_iff] at ends
            exact ends.1.1.1
          simp [leadingDigits, other]
  | cons first digits ih =>
      obtain ⟨digit, others⟩ := List.forall_mem_cons.mp all
      simp only [List.map_cons, List.cons_append, leadingDigits, digit, if_true, ih others]

theorem fraction_absent (ends : prolongs rest = false) : fraction? rest = some (none, 0) := by
  match rest, ends with
  | [], _ => rfl
  | none :: _, _ => rfl
  | some c :: _, ends =>
      have other : c ≠ '.' := by
        rintro rfl
        cases ends
      unfold fraction?
      split
      · rename_i same
        cases same
        exact absurd rfl other
      · rfl

theorem exponent_absent (ends : prolongs rest = false) : exponent? rest = some (none, 0) := by
  match rest, ends with
  | [], _ => rfl
  | none :: _, _ => rfl
  | some c :: _, ends =>
      have other : ¬ (c = 'e' ∨ c = 'E') := by
        rintro (rfl | rfl) <;> cases ends
      simp only [exponent?, if_neg other]

-- No number but zero begins with a zero.
theorem digits_lead {n : Nat} (positive : 0 < n) : (Nat.toDigits 10 n).head? ≠ some '0' := by
  induction n using Nat.strongRecOn with
  | ind n ih =>
      by_cases single : n < 10
      · rw [Nat.toDigits_of_lt_base single]
        simp only [List.head?_cons, ne_eq, Option.some.injEq, Nat.digitChar_eq_zero]
        omega
      · have shorter := ih (n / 10) (by omega) (by omega)
        obtain ⟨first, others, shape⟩ := List.exists_cons_of_ne_nil (Nat.toDigits_ne_nil (n := n / 10) (b := 10))
        rw [Nat.toDigits_of_base_le (by decide) (Nat.le_of_not_lt single), shape]
        rwa [shape] at shorter

theorem digits_led (n : Nat) : ((Nat.toDigits 10 n).isEmpty ||
    ((Nat.toDigits 10 n).head? == some '0' && (Nat.toDigits 10 n).length != 1)) = false := by
  have some : (Nat.toDigits 10 n).isEmpty = false := List.isEmpty_eq_false_iff.mpr Nat.toDigits_ne_nil
  rw [some, Bool.false_or]
  by_cases zero : n = 0
  · subst zero
    rfl
  · have other := digits_lead (Nat.pos_of_ne_zero zero)
    rw [beq_eq_false_iff_ne.mpr other, Bool.false_and]

theorem literal_of_digits (negative : Bool) (n : Nat) (ends : prolongs rest = false) :
    literal? negative ((Nat.toDigits 10 n).map some ++ rest) =
      some (⟨negative, Nat.toDigits 10 n, none, none⟩, (Nat.toDigits 10 n).length) := by
  have all : ∀ c ∈ Nat.toDigits 10 n, c.isDigit = true := fun c =>
    Nat.isDigit_of_mem_toDigits (by decide) (by decide)
  have behind : ((Nat.toDigits 10 n).map some ++ rest).drop (Nat.toDigits 10 n).length = rest :=
    List.drop_left' (List.length_map ..)
  simp only [literal?, leading_digits_append all ends, digits_led, behind, fraction_absent ends, Nat.add_zero,
    exponent_absent ends, Option.bind_eq_bind, Option.bind_some]
  rfl

theorem nat_of_digits (n : Nat) : Decimal.natOfDigits (Nat.toDigits 10 n) = n :=
  Nat.ofDigitChars_toDigits (by decide) (by decide)

theorem digit_dense {c : Char} (digit : c.isDigit = true) : isSpace (some c) = false := by
  simp only [isSpace, Bool.or_eq_false_iff, beq_eq_false_iff_ne, ne_eq, Option.some.injEq]
  refine ⟨⟨⟨?_, ?_⟩, ?_⟩, ?_⟩
  all_goals
    rintro rfl
    cases digit

theorem after_digit {c : Char} (digit : c.isDigit = true) (rest : List Glyph) :
    after? (some c) rest = (number? false (some c :: rest)).map fun (token, length) => (token, length - 1) := by
  unfold after?
  split
  all_goals try (rename_i same; cases same; cases digit)
  · rename_i same
    cases same
    rw [if_pos digit]
  · rename_i same
    cases same

theorem of_glyphs_nat {n : Nat} (small : n < 0x10000000000000000) (ends : prolongs rest = false) :
    ofGlyphs ((Nat.toDigits 10 n).map some ++ rest) = .num (some (.int n)) :: ofGlyphs rest := by
  have read := literal_of_digits false n ends
  have number : Number.ofLiteral? ⟨false, Nat.toDigits 10 n, none, none⟩ = some (.int n) := by
    simp [Number.ofLiteral?, nat_of_digits, small]
  cases digits : Nat.toDigits 10 n with
  | nil => exact absurd digits Nat.toDigits_ne_nil
  | cons first others =>
      have digit : first.isDigit = true :=
        Nat.isDigit_of_mem_toDigits (by decide) (by decide) (digits ▸ List.mem_cons_self)
      rw [digits] at read number
      have after : after? (some first) (others.map some ++ rest) = some (.num (some (.int n)), others.length) := by
        rw [after_digit digit, number?]
        rw [List.map_cons, List.cons_append] at read
        rw [read]
        simp [number]
      rw [List.map_cons, List.cons_append, of_glyphs_after (digit_dense digit) after,
        List.drop_left' (List.length_map ..)]

theorem of_glyphs_negative {n : Nat} (positive : 0 < n) (small : n ≤ 0x8000000000000000)
    (ends : prolongs rest = false) :
    ofGlyphs (some '-' :: (Nat.toDigits 10 n).map some ++ rest) = .num (some (.int (-n))) :: ofGlyphs rest := by
  have number : Number.ofLiteral? ⟨true, Nat.toDigits 10 n, none, none⟩ = some (.int (-n)) := by
    simp [Number.ofLiteral?, nat_of_digits, small, positive]
  have after : after? (some '-') ((Nat.toDigits 10 n).map some ++ rest) =
      some (.num (some (.int (-n))), (Nat.toDigits 10 n).length) := by
    show number? true _ = _
    rw [number?, literal_of_digits true n ends]
    simp [number]
  rw [List.cons_append, of_glyphs_after rfl after, List.drop_left' (List.length_map ..)]

end Numbers

section Strings

open Text.Hex (digits digit?)

-- The part of a literal that a character is written as.
def pieceOf (c : Char) : Piece := if escape c = hexEscape c then .unit c.toNat else .plain c

theorem unit_of_control : ∀ n < 32, ∃ a b c d, digits 4 n = [a, b, c, d] ∧
    unit? (some a) (some b) (some c) (some d) = some n := by
  have shapes : ∀ n < 32, digits 4 n = ['0', '0', Nat.digitChar (n / 16), Nat.digitChar (n % 16)] ∧
      unit? (some '0') (some '0') (some (Nat.digitChar (n / 16))) (some (Nat.digitChar (n % 16))) = some n := by
    decide
  exact fun n small => ⟨_, _, _, _, shapes n small⟩

theorem pieces_plain {c : Char} (quote : c ≠ '"') (backslash : c ≠ '\\') (printed : ¬ c.toNat < 0x20)
    (rest : List Glyph) : pieces? (some c :: rest) = prepend (.plain c) 1 (pieces? rest) := by
  rw [pieces?]
  · rw [if_neg printed]
  · exact quote
  · exact fun _ _ _ _ _ _ => backslash
  · exact fun _ _ _ => backslash
  · exact backslash

theorem piece_of_short {c : Char} (short : (escape c).length < 6) : pieceOf c = .plain c := by
  rw [pieceOf, if_neg]
  intro long
  rw [long, hexEscape, List.length_cons, List.length_cons] at short
  simp [Text.Hex.digits] at short

-- A character is written with a mark, by its number, or as it is.
theorem escape_cases (c : Char) :
    (∃ mark, pieceOf c = .plain c ∧ escape c = ['\\', mark] ∧ mark ≠ 'u' ∧ escaped? mark = some c) ∨
    (pieceOf c = .unit c.toNat ∧ escape c = hexEscape c ∧ c.toNat < 0x20) ∨
    (pieceOf c = .plain c ∧ escape c = [c] ∧ c ≠ '"' ∧ c ≠ '\\' ∧ ¬ c.toNat < 0x20) := by
  have shapes : (∃ mark, escape c = ['\\', mark] ∧ mark ≠ 'u' ∧ escaped? mark = some c) ∨
      (escape c = hexEscape c ∧ c.toNat < 0x20) ∨ (escape c = [c] ∧ c ≠ '"' ∧ c ≠ '\\' ∧ ¬ c.toNat < 0x20) := by
    unfold escape
    split
    all_goals try exact Or.inl ⟨_, rfl, by decide, rfl⟩
    rename_i quote backslash _ _ _ _ _
    by_cases control : c.toNat < 0x20
    · exact Or.inr (Or.inl ⟨if_pos control, control⟩)
    · exact Or.inr (Or.inr ⟨if_neg control, quote, backslash, control⟩)
  rcases shapes with ⟨mark, short, marked⟩ | ⟨long, control⟩ | ⟨itself, printed⟩
  · exact Or.inl ⟨mark, piece_of_short (by simp [short]), short, marked⟩
  · exact Or.inr (Or.inl ⟨if_pos long, long, control⟩)
  · exact Or.inr (Or.inr ⟨piece_of_short (by simp [itself]), itself, printed⟩)

theorem pieces_escaped (c : Char) (rest : List Glyph) :
    pieces? ((escape c).map some ++ rest) = prepend (pieceOf c) (escape c).length (pieces? rest) := by
  rcases escape_cases c with ⟨mark, piece, short, other, back⟩ | ⟨piece, long, control⟩ |
    ⟨piece, itself, quote, backslash, printed⟩
  · rw [piece, short]
    show pieces? (some '\\' :: some mark :: rest) = _
    rw [pieces?, back]
    · rfl
    · exact fun _ _ _ _ _ _ => other
  · obtain ⟨a, b, d, e, shape, unit⟩ := unit_of_control c.toNat control
    rw [piece, long, hexEscape, shape]
    show pieces? (some '\\' :: some 'u' :: some a :: some b :: some d :: some e :: rest) = _
    rw [pieces?, unit]
    rfl
  · rw [piece, itself]
    exact pieces_plain quote backslash printed rest

theorem pieces_of_escapes (chars : List Char) (rest : List Glyph) :
    pieces? ((chars.flatMap escape).map some ++ some '"' :: rest) =
      some (chars.map pieceOf, (chars.flatMap escape).length + 1) := by
  induction chars with
  | nil => rfl
  | cons first chars ih =>
      rw [List.flatMap_cons, List.map_append, List.append_assoc, pieces_escaped, ih]
      simp only [prepend, Option.map_some, List.map_cons, List.length_append]
      congr 2
      omega

theorem text_of_unit {n : Nat} (small : n < 0x20) (rest : List Piece) :
    textOf (.unit n :: rest) = (textOf rest).map (Char.ofNat n :: ·) := by
  have notHigh : isHigh n = false := by
    simp only [isHigh, Bool.and_eq_false_iff, decide_eq_false_iff_not]
    omega
  have notLow : isLow n = false := by
    simp only [isLow, Bool.and_eq_false_iff, decide_eq_false_iff_not]
    omega
  cases rest with
  | nil => simp [textOf, notHigh, notLow]
  | cons second rest => cases second <;> simp [textOf, notHigh, notLow]

theorem text_of_pieces (chars : List Char) : textOf (chars.map pieceOf) = some chars := by
  induction chars with
  | nil => rfl
  | cons first chars ih =>
      rw [List.map_cons]
      rcases escape_cases first with ⟨_, piece, _⟩ | ⟨piece, _, control⟩ | ⟨piece, _⟩
      · rw [piece, textOf, ih, Option.map_some]
      · rw [piece, text_of_unit control, ih, Option.map_some, Char.ofNat_toNat]
      · rw [piece, textOf, ih, Option.map_some]

theorem of_glyphs_literal (text : String) (rest : List Glyph) :
    ofGlyphs (glyphsOf (literal text) ++ rest) = .str (some text) :: ofGlyphs rest := by
  have shape : glyphsOf (literal text) ++ rest =
      some '"' :: ((text.toList.flatMap escape).map some ++ some '"' :: rest) := by
    simp [glyphsOf, literal]
  have after : after? (some '"') ((text.toList.flatMap escape).map some ++ some '"' :: rest) =
      some (.str (some text), (text.toList.flatMap escape).length + 1) := by
    show (pieces? _).map _ = _
    simp only [pieces_of_escapes, Option.map_some, text_of_pieces, String.ofList_toList]
  have behind : ((text.toList.flatMap escape).map some ++ some '"' :: rest).drop
      ((text.toList.flatMap escape).length + 1) = rest := by
    rw [← List.drop_drop, List.drop_left' (List.length_map ..)]
    rfl
  rw [shape, of_glyphs_after rfl after, behind]

end Strings

section Marks

variable (rest : List Glyph)

theorem ends_of_mark (mark : Char) (ends : prolongs [some mark] = false) : prolongs (some mark :: rest) = false := ends

theorem of_glyphs_mark {mark : Char} {token : Token} (dense : isSpace (some mark) = false)
    (read : after? (some mark) rest = some (token, 0)) : ofGlyphs (some mark :: rest) = token :: ofGlyphs rest :=
  of_glyphs_after dense read

theorem of_glyphs_word {first : Char} (letters : String) {token : Token} (dense : isSpace (some first) = false)
    (word : ∀ rest, after? (some first) rest = word? letters token rest) :
    ofGlyphs (some first :: (glyphsOf letters ++ rest)) = token :: ofGlyphs rest := by
  have length : (glyphsOf letters).length = letters.length := by
    simp only [glyphsOf, List.length_map, String.length_toList]
  have read : after? (some first) (glyphsOf letters ++ rest) = some (token, letters.length) := by
    rw [word, word?, List.take_left' length, if_pos rfl]
  rw [of_glyphs_after dense read, List.drop_left' length]

theorem of_glyphs_null : ofGlyphs (glyphsOf "null" ++ rest) = .null :: ofGlyphs rest := by
  rw [show glyphsOf "null" = some 'n' :: glyphsOf "ull" from rfl]
  exact of_glyphs_word rest "ull" rfl fun _ => rfl

theorem of_glyphs_bool (b : Bool) :
    ofGlyphs (glyphsOf (if b then "true" else "false") ++ rest) = .bool b :: ofGlyphs rest := by
  cases b with
  | true =>
      rw [if_pos rfl, show glyphsOf "true" = some 't' :: glyphsOf "rue" from rfl]
      exact of_glyphs_word rest "rue" rfl fun _ => rfl
  | false =>
      rw [if_neg Bool.false_ne_true, show glyphsOf "false" = some 'f' :: glyphsOf "alse" from rfl]
      exact of_glyphs_word rest "alse" rfl fun _ => rfl

end Marks

end Token

mutual

-- Every number is whole and fits into 64 bits.
def Value.Exact : Value → Prop
  | .num (.int n) => -0x8000000000000000 ≤ n ∧ n < 0x10000000000000000
  | .num (.float _) => False
  | .arr items => Value.ItemsExact items
  | .obj members => Value.MembersExact members
  | _ => True

def Value.ItemsExact : List Value → Prop
  | [] => True
  | item :: rest => item.Exact ∧ Value.ItemsExact rest

def Value.MembersExact : List (String × Value) → Prop
  | [] => True
  | member :: rest => member.2.Exact ∧ Value.MembersExact rest

end

-- The text of a number is read as the number wherever it ends.
def Number.Readable (n : Number) : Prop :=
  ∀ rest, Token.prolongs rest = false →
    Token.ofGlyphs (glyphsOf n.text ++ rest) = .num (some n) :: Token.ofGlyphs rest

mutual

-- Every number comes back from its text.
def Value.Readable : Value → Prop
  | .num n => n.Readable
  | .arr items => Value.ItemsReadable items
  | .obj members => Value.MembersReadable members
  | _ => True

def Value.ItemsReadable : List Value → Prop
  | [] => True
  | item :: rest => item.Readable ∧ Value.ItemsReadable rest

def Value.MembersReadable : List (String × Value) → Prop
  | [] => True
  | member :: rest => member.2.Readable ∧ Value.MembersReadable rest

end

namespace Value

theorem items_readable_iff {items : List Value} : ItemsReadable items ↔ ∀ item ∈ items, item.Readable := by
  induction items with
  | nil => exact iff_of_true trivial (List.forall_mem_nil _)
  | cons item rest ih => rw [ItemsReadable, ih, List.forall_mem_cons]

theorem members_readable_iff {members : List (String × Value)} :
    MembersReadable members ↔ ∀ member ∈ members, member.2.Readable := by
  induction members with
  | nil => exact iff_of_true trivial (List.forall_mem_nil _)
  | cons member rest ih => rw [MembersReadable, ih, List.forall_mem_cons]

theorem members_readable_append {first later : List (String × Value)} (one : MembersReadable first)
    (other : MembersReadable later) : MembersReadable (first ++ later) :=
  members_readable_iff.mpr (List.forall_mem_append.mpr ⟨members_readable_iff.mp one, members_readable_iff.mp other⟩)

theorem optional_readable {α : Type} {name : String} {encode : α → Value} {given : Option α}
    (each : ∀ a, given = some a → (encode a).Readable) : MembersReadable (optional name encode given) := by
  cases given with
  | none => trivial
  | some a => exact ⟨each a rfl, trivial⟩

theorem strings_readable (texts : List String) : (strings texts).Readable :=
  items_readable_iff.mpr (List.forall_mem_map.mpr fun _ _ => trivial)

theorem of_keyed_readable {α : Type} {encode : α → Value} {table : Keyed α}
    (each : ∀ entry ∈ table.entries, (encode entry.2).Readable) : (ofKeyed encode table).Readable :=
  members_readable_iff.mpr (List.forall_mem_map.mpr each)

end Value

mutual

def Value.tokens : Value → List Token
  | .null => [.null]
  | .bool b => [.bool b]
  | .num n => [.num (some n)]
  | .str s => [.str (some s)]
  | .arr items => .openArray :: Value.itemTokens items
  | .obj members => .openObject :: Value.memberTokens members

-- The tokens of items, and the bracket behind them.
def Value.itemTokens : List Value → List Token
  | [] => [.closeArray]
  | [last] => last.tokens ++ [.closeArray]
  | item :: rest => item.tokens ++ .comma :: Value.itemTokens rest

def Value.memberTokens : List (String × Value) → List Token
  | [] => [.closeObject]
  | [last] => .str (some last.1) :: .colon :: last.2.tokens ++ [.closeObject]
  | member :: rest => .str (some member.1) :: .colon :: member.2.tokens ++ .comma :: Value.memberTokens rest

end

open Token

theorem of_glyphs_int {n : Int} (low : -0x8000000000000000 ≤ n) (high : n < 0x10000000000000000) {rest : List Glyph}
    (ends : prolongs rest = false) :
    ofGlyphs (glyphsOf (Decimal.intText n) ++ rest) = .num (some (.int n)) :: ofGlyphs rest := by
  unfold Decimal.intText
  by_cases negative : n < 0
  · have whole := of_glyphs_negative (n := n.natAbs) (by omega) (by omega) ends
    have same : -(n.natAbs : Int) = n := by omega
    rw [same] at whole
    rw [if_pos negative, ← whole]
    simp [glyphsOf, Decimal.digitsText]
  · have whole := of_glyphs_nat (n := n.toNat) (by omega) ends
    have same : (n.toNat : Int) = n := by omega
    rw [same] at whole
    rw [if_neg negative, ← whole]
    simp [glyphsOf, Decimal.digitsText]

mutual

theorem Value.Exact.readable {value : Value} (exact : value.Exact) : value.Readable := by
  match value, exact with
  | .null, _ => trivial
  | .bool _, _ => trivial
  | .num (.int n), exact => exact fun rest ends => of_glyphs_int exact.1 exact.2 ends
  | .num (.float x), exact => exact exact.elim
  | .str _, _ => trivial
  | .arr items, exact => exact Value.ItemsExact.readable exact
  | .obj members, exact => exact Value.MembersExact.readable exact

theorem Value.ItemsExact.readable {items : List Value} (exact : Value.ItemsExact items) :
    Value.ItemsReadable items := by
  match items, exact with
  | [], _ => trivial
  | item :: rest, exact => exact ⟨Value.Exact.readable exact.1, Value.ItemsExact.readable exact.2⟩

theorem Value.MembersExact.readable {members : List (String × Value)} (exact : Value.MembersExact members) :
    Value.MembersReadable members := by
  match members, exact with
  | [], _ => trivial
  | member :: rest, exact => exact ⟨Value.Exact.readable exact.1, Value.MembersExact.readable exact.2⟩

end

mutual

theorem Value.of_glyphs_compact (value : Value) (readable : value.Readable) (rest : List Glyph)
    (ends : prolongs rest = false) :
    ofGlyphs (glyphsOf value.compact ++ rest) = value.tokens ++ ofGlyphs rest := by
  match value, readable with
  | .null, _ => exact of_glyphs_null rest
  | .bool b, _ => exact of_glyphs_bool rest b
  | .num n, readable => exact readable rest ends
  | .str s, _ => exact of_glyphs_literal s rest
  | .arr items, readable =>
      have inside := Value.of_glyphs_items items readable rest
      have shape : glyphsOf (Value.arr items).compact ++ rest =
          some '[' :: (glyphsOf (Value.compactItems items) ++ some ']' :: rest) := by
        simp [Value.compact, glyphsOf]
      rw [shape, of_glyphs_mark _ rfl rfl, inside, Value.tokens, List.cons_append]
  | .obj members, readable =>
      have inside := Value.of_glyphs_members members readable rest
      have shape : glyphsOf (Value.obj members).compact ++ rest =
          some '\x7b' :: (glyphsOf (Value.compactMembers members) ++ some '\x7d' :: rest) := by
        simp [Value.compact, glyphsOf]
      rw [shape, of_glyphs_mark _ rfl rfl, inside, Value.tokens, List.cons_append]

theorem Value.of_glyphs_items (items : List Value) (readable : Value.ItemsReadable items) (rest : List Glyph) :
    ofGlyphs (glyphsOf (Value.compactItems items) ++ some ']' :: rest) = Value.itemTokens items ++ ofGlyphs rest := by
  match items, readable with
  | [], _ => exact of_glyphs_mark rest rfl rfl
  | [last], readable =>
      have here := Value.of_glyphs_compact last readable.1 _ (ends_of_mark rest ']' rfl)
      rw [Value.compactItems, here, of_glyphs_mark _ rfl rfl, Value.itemTokens, List.append_assoc,
        List.singleton_append]
  | item :: second :: more, readable =>
      have later := Value.of_glyphs_items (second :: more) readable.2 rest
      have here := Value.of_glyphs_compact item readable.1 _
        (ends_of_mark (glyphsOf (Value.compactItems (second :: more)) ++ some ']' :: rest) ',' rfl)
      have shape : glyphsOf (Value.compactItems (item :: second :: more)) ++ some ']' :: rest = glyphsOf item.compact ++
          some ',' :: (glyphsOf (Value.compactItems (second :: more)) ++ some ']' :: rest) := by
        simp [Value.compactItems, glyphsOf]
      rw [shape, here, of_glyphs_mark _ rfl rfl, later]
      simp [Value.itemTokens]

theorem Value.of_glyphs_members (members : List (String × Value)) (readable : Value.MembersReadable members)
    (rest : List Glyph) :
    ofGlyphs (glyphsOf (Value.compactMembers members) ++ some '\x7d' :: rest) =
      Value.memberTokens members ++ ofGlyphs rest := by
  match members, readable with
  | [], _ => exact of_glyphs_mark rest rfl rfl
  | [last], readable =>
      have here := Value.of_glyphs_compact last.2 readable.1 _ (ends_of_mark rest '\x7d' rfl)
      have shape : glyphsOf (Value.compactMembers [last]) ++ some '\x7d' :: rest =
          glyphsOf (literal last.1) ++ some ':' :: (glyphsOf last.2.compact ++ some '\x7d' :: rest) := by
        simp [Value.compactMembers, glyphsOf]
      rw [shape, of_glyphs_literal, of_glyphs_mark _ rfl rfl, here, of_glyphs_mark _ rfl rfl]
      simp [Value.memberTokens]
  | member :: second :: more, readable =>
      have later := Value.of_glyphs_members (second :: more) readable.2 rest
      have here := Value.of_glyphs_compact member.2 readable.1 _
        (ends_of_mark (glyphsOf (Value.compactMembers (second :: more)) ++ some '\x7d' :: rest) ',' rfl)
      have shape : glyphsOf (Value.compactMembers (member :: second :: more)) ++ some '\x7d' :: rest =
          glyphsOf (literal member.1) ++ some ':' :: (glyphsOf member.2.compact ++
            some ',' :: (glyphsOf (Value.compactMembers (second :: more)) ++ some '\x7d' :: rest)) := by
        simp [Value.compactMembers, glyphsOf]
      rw [shape, of_glyphs_literal, of_glyphs_mark _ rfl rfl, here, of_glyphs_mark _ rfl rfl, later]
      simp [Value.memberTokens]

end

end Bookmarks.Json
