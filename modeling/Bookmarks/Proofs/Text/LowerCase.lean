import Bookmarks.Text.LowerCase
import Bookmarks.Proofs.Text.Spans

/-!
Lower-casing a part of a text where it stands. Only a capital sigma depends on what is around it, so the part
becomes what it becomes alone exactly if each of its sigmas is final in the text where it is final in the part.
-/
set_option autoImplicit false

namespace Bookmarks.Text

-- Whether a capital sigma between these is a final one. What comes before is read backwards.
def isFinal (before after : List Char) : Bool := meetsCased before && !meetsCased after

-- What a character between these becomes.
def lowerBetween (before : List Char) (c : Char) (after : List Char) : List Char :=
  if c = 'Σ' then [if isFinal before after then 'ς' else 'σ'] else lowerChar c

-- What a part of a text between these becomes.
def lowerWithin (before : List Char) : List Char → List Char → List Char
  | [], _ => []
  | c :: part, after => lowerBetween before c (part ++ after) ++ lowerWithin (c :: before) part after

-- Every capital sigma of the part is final in the text if it is final in the part, and not otherwise.
def Undisturbed (before part after : List Char) : Prop :=
  ∀ left right, part = left ++ 'Σ' :: right →
    isFinal (left.reverse ++ before.reverse) (right ++ after) = isFinal left.reverse right

variable {before before' after after' part : List Char}

theorem lower_after_cons (before : List Char) (c : Char) (rest : List Char) :
    lowerAfter before (c :: rest) = lowerBetween before c rest ++ lowerAfter (c :: before) rest := rfl

theorem lower_after_append (before part after : List Char) :
    lowerAfter before (part ++ after) = lowerWithin before part after ++ lowerAfter (part.reverse ++ before) after := by
  induction part generalizing before with
  | nil => rfl
  | cons c part ih =>
      rw [List.cons_append, lower_after_cons, ih, lowerWithin, List.append_assoc, List.reverse_cons, List.append_assoc]
      rfl

theorem lower_after_eq_within (before part : List Char) : lowerAfter before part = lowerWithin before part [] := by
  have whole := lower_after_append before part []
  rwa [List.append_nil, lowerAfter, List.append_nil] at whole

theorem lower_between_length (before before' after after' : List Char) (c : Char) :
    (lowerBetween before c after).length = (lowerBetween before' c after').length := by
  unfold lowerBetween
  split <;> rfl

theorem lower_between_eq_iff {c : Char} :
    lowerBetween before c after = lowerBetween before' c after' ↔
      (c = 'Σ' → isFinal before after = isFinal before' after') := by
  by_cases sigma : c = 'Σ'
  · have distinct : 'ς' ≠ 'σ' := by decide
    cases here : isFinal before after <;> cases there : isFinal before' after' <;>
      simp [lowerBetween, sigma, here, there, distinct, distinct.symm]
  · simp [lowerBetween, sigma]

theorem lower_within_eq_iff :
    lowerWithin before part after = lowerWithin before' part after' ↔
      ∀ left right, part = left ++ 'Σ' :: right →
        isFinal (left.reverse ++ before) (right ++ after) = isFinal (left.reverse ++ before') (right ++ after') := by
  induction part generalizing before before' with
  | nil => simp [lowerWithin]
  | cons c part ih =>
      have parts : lowerWithin before (c :: part) after = lowerWithin before' (c :: part) after' ↔
          lowerBetween before c (part ++ after) = lowerBetween before' c (part ++ after') ∧
            lowerWithin (c :: before) part after = lowerWithin (c :: before') part after' := by
        rw [lowerWithin, lowerWithin]
        constructor
        · exact fun same => List.append_inj same (lower_between_length _ _ _ _ c)
        · rintro ⟨first, later⟩
          rw [first, later]
      rw [parts, lower_between_eq_iff, ih]
      constructor
      · rintro ⟨first, later⟩ left right same
        cases left with
        | nil =>
            obtain ⟨sigma, rfl⟩ := List.cons.inj same
            exact first sigma
        | cons d left =>
            have rest := later left right (List.cons.inj same).2
            rw [← (List.cons.inj same).1]
            simpa using rest
      · intro every
        refine ⟨?first, ?later⟩
        case first =>
          rintro rfl
          exact every [] part rfl
        case later =>
          rintro left right rfl
          simpa using every (c :: left) right rfl

theorem undisturbed_iff (before part after : List Char) :
    lowerWithin before.reverse part after = lowerAfter [] part ↔ Undisturbed before part after := by
  rw [lower_after_eq_within, lower_within_eq_iff]
  simp only [List.append_nil, Undisturbed]

-- A text is lower-cased part by part, and the part in the middle becomes what it becomes alone if it is undisturbed.
theorem lower_case_infix {text part : String} (whole : text.toList = before ++ part.toList ++ after)
    (undisturbed : Undisturbed before part.toList after) : (lowerCase part).toList <:+: (lowerCase text).toList := by
  refine ⟨lowerWithin [] before (part.toList ++ after), lowerAfter (part.toList.reverse ++ before.reverse) after, ?_⟩
  rw [lowerCase, lowerCase, String.toList_ofList, String.toList_ofList, whole, List.append_assoc before,
    lower_after_append, lower_after_append, List.append_nil, (undisturbed_iff before part.toList after).mpr undisturbed,
    List.append_assoc]

theorem meets_cased_nil : meetsCased [] = false := rfl

theorem meets_cased_cons {c : Char} (counts : caseIgnorable.contains c = false) (rest : List Char) :
    meetsCased (c :: rest) = cased.contains c := by
  rw [meetsCased, List.dropWhile_cons_of_neg (by simp [counts])]

theorem text_contains_capital_a (rest : List Char) :
    (Spans.ofText (String.ofList (['4', '1', '+', '1', '9'] ++ ' ' :: rest))).contains 'A' = true := by
  rw [Spans.contains_of_text, String.toList_ofList, Spans.tokens_cons (by simp) (by simp) rfl]
  exact ⟨_, List.mem_cons_self, by decide, by decide⟩

-- The table goes on at `5e` after `3a`.
theorem text_skips_capital_a (rest : List Char) :
    (Spans.ofText (String.ofList (['2', '7'] ++ ' ' :: (['6'] ++ ' ' :: (['b'] ++ ' ' :: (['2', '3'] ++ ' ' ::
      rest)))))).contains 'A' = false := by
  rw [Bool.eq_false_iff]
  intro contained
  rw [Spans.contains_of_text, String.toList_ofList, Spans.tokens_cons (by simp) (by simp) rfl,
    Spans.tokens_cons (by simp) (by simp) rfl, Spans.tokens_cons (by simp) (by simp) rfl,
    Spans.tokens_cons (by simp) (by simp) rfl] at contained
  obtain ⟨span, member, first, last⟩ := contained
  have place : span.last ≤ 0x3a ∨ 0x5e ≤ span.first := by
    rcases List.mem_cons.mp member with rfl | member
    · exact Or.inl (by decide)
    rcases List.mem_cons.mp member with rfl | member
    · exact Or.inl (by decide)
    rcases List.mem_cons.mp member with rfl | member
    · exact Or.inl (by decide)
    rcases List.mem_cons.mp member with rfl | member
    · exact Or.inr (by decide)
    · exact Or.inr (Nat.le_trans (by decide) (Spans.spans_from_above member).1)
  have code : 'A'.toNat = 0x41 := rfl
  omega

set_option maxRecDepth 10000 in
theorem cased_capital_a : cased.contains 'A' = true := by
  have table : ∃ rest, cased = Spans.ofText (String.ofList (['4', '1', '+', '1', '9'] ++ ' ' :: rest)) := ⟨_, rfl⟩
  obtain ⟨rest, listed⟩ := table
  rw [listed]
  exact text_contains_capital_a rest

set_option maxRecDepth 20000 in
theorem capital_a_counts : caseIgnorable.contains 'A' = false := by
  have table : ∃ rest, caseIgnorable = Spans.ofText (String.ofList (['2', '7'] ++ ' ' :: (['6'] ++ ' ' ::
      (['b'] ++ ' ' :: (['2', '3'] ++ ' ' :: rest))))) := ⟨_, rfl⟩
  obtain ⟨rest, listed⟩ := table
  rw [listed]
  exact text_skips_capital_a rest

end Bookmarks.Text
