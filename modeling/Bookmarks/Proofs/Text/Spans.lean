import Bookmarks.Text.Spans

/-!
What a table over code points contains. The spans of a table that is read from text ascend, so the binary search
misses none of them.
-/
set_option autoImplicit false

namespace Bookmarks.Text.Spans

-- Each span ends before every later one begins.
structure Ascending (spans : List Span) : Prop where
  proper : ∀ span ∈ spans, span.first ≤ span.last
  ordered : spans.Pairwise fun a b => a.last < b.first

def tokens (text : List Char) : List (List Char) := (text.splitOnP Char.isWhitespace).filter (!·.isEmpty)

-- The spans that tokens describe after a table that ends before `next`.
def spansFrom (next : Nat) : List (List Char) → List Span
  | [] => []
  | token :: rest => ofToken next token :: spansFrom ((ofToken next token).last + 1) rest

theorem tokens_cons {token rest : List Char} {blank : Char} (dense : ∀ c ∈ token, c.isWhitespace = false)
    (nonempty : token ≠ []) (space : blank.isWhitespace = true) :
    tokens (token ++ blank :: rest) = token :: tokens rest := by
  rw [tokens, List.splitOnP_append_cons_of_forall_mem dense blank space, List.filter_cons_of_pos]
  · rfl
  · simpa using nonempty

def nextOf (spans : Spans) : Nat :=
  match spans.back? with
  | some span => span.last + 1
  | none => 0

theorem next_of_push (found : Spans) (span : Span) : nextOf (found.push span) = span.last + 1 := by
  simp [nextOf]

theorem foldl_push (rest : List (List Char)) (found : Spans) :
    (rest.foldl (fun found token => found.push (ofToken (nextOf found) token)) found).toList =
      found.toList ++ spansFrom (nextOf found) rest := by
  induction rest generalizing found with
  | nil => rw [List.foldl_nil, spansFrom, List.append_nil]
  | cons token rest ih =>
      rw [List.foldl_cons, ih, next_of_push, Array.toList_push, List.append_assoc, spansFrom]
      rfl

theorem of_text_list (text : String) : (ofText text).toList = spansFrom 0 (tokens text.toList) :=
  foldl_push (tokens text.toList) #[]

theorem spans_from_above {next : Nat} {rest : List (List Char)} {span : Span} (member : span ∈ spansFrom next rest) :
    next ≤ span.first ∧ span.first ≤ span.last := by
  induction rest generalizing next with
  | nil => simp [spansFrom] at member
  | cons token rest ih =>
      rcases List.mem_cons.mp member with rfl | later
      · exact ⟨Nat.le_add_right _ _, Nat.le_add_right _ _⟩
      · have above := ih later
        have here : next ≤ (ofToken next token).first := Nat.le_add_right _ _
        have wide : (ofToken next token).first ≤ (ofToken next token).last := Nat.le_add_right _ _
        exact ⟨by omega, above.2⟩

theorem spans_from_ascending (next : Nat) (rest : List (List Char)) : Ascending (spansFrom next rest) := by
  refine ⟨fun span member => (spans_from_above member).2, ?_⟩
  induction rest generalizing next with
  | nil => exact List.Pairwise.nil
  | cons token rest ih => exact List.pairwise_cons.mpr ⟨fun span later => (spans_from_above later).1, ih _⟩

theorem Ascending.before {spans : Spans} (ascending : Ascending spans.toList) {i j : Nat} {a b : Span}
    (here : spans[i]? = some a) (there : spans[j]? = some b) (less : i < j) : a.last < b.first := by
  obtain ⟨inside, rfl⟩ := Array.getElem?_eq_some_iff.mp here
  obtain ⟨within, rfl⟩ := Array.getElem?_eq_some_iff.mp there
  exact List.pairwise_iff_getElem.mp ascending.ordered i j inside within less

theorem Ascending.first_le_last {spans : Spans} (ascending : Ascending spans.toList) {i : Nat} {a : Span}
    (here : spans[i]? = some a) : a.first ≤ a.last :=
  ascending.proper a (Array.mem_toList_iff.mpr (Array.mem_of_getElem? here))

theorem search_mem {spans : Spans} {point low high : Nat} {span : Span}
    (found : search spans point low high = some span) : span ∈ spans := by
  fun_induction search spans point low high with
  | case1 => cases found
  | case2 low high nonempty middle other here left ih => exact ih found
  | case3 low high nonempty middle other here notLeft right ih => exact ih found
  | case4 low high nonempty middle other here =>
      cases found
      exact Array.mem_of_getElem? here
  | case5 => cases found

-- The search rules out only spans on the one side of the span that holds the point.
theorem search_isSome {spans : Spans} {point low high place : Nat} {span : Span} (ascending : Ascending spans.toList)
    (there : spans[place]? = some span) (first : span.first ≤ point) (last : point ≤ span.last)
    (bounded : high ≤ spans.size) (above : low ≤ place) (below : place < high) :
    (search spans point low high).isSome = true := by
  fun_induction search spans point low high with
  | case1 low high nonempty middle outside =>
      have beyond : spans.size ≤ middle := Array.getElem?_eq_none_iff.mp outside
      omega
  | case2 low high nonempty middle other here left ih =>
      have before : place < middle := by
        rcases Nat.lt_trichotomy place middle with before | same | behind
        · exact before
        · rw [← same, there] at here
          cases here
          omega
        · have apart := ascending.before here there behind
          have proper := ascending.first_le_last here
          omega
      exact ih (by omega) above before
  | case3 low high nonempty middle other here notLeft right ih =>
      have behind : middle < place := by
        rcases Nat.lt_trichotomy place middle with before | same | behind
        · have apart := ascending.before there here before
          have proper := ascending.first_le_last here
          omega
        · rw [← same, there] at here
          cases here
          omega
        · exact behind
      exact ih bounded behind below
  | case4 => rfl
  | case5 low high empty => exact absurd (Nat.lt_of_le_of_lt above below) empty

-- A table contains what one of its spans holds.
theorem contains_iff {spans : Spans} (ascending : Ascending spans.toList) (c : Char) :
    spans.contains c = true ↔ ∃ span ∈ spans.toList, span.first ≤ c.toNat ∧ c.toNat ≤ span.last := by
  constructor
  · intro contained
    obtain ⟨span, found⟩ := Option.isSome_iff_exists.mp contained
    exact ⟨span, Array.mem_toList_iff.mpr (search_mem found), search_holds found⟩
  · rintro ⟨span, member, first, last⟩
    obtain ⟨place, inside, here⟩ := List.mem_iff_getElem.mp member
    have there : spans[place]? = some span := Array.getElem?_eq_some_iff.mpr ⟨inside, here⟩
    exact search_isSome ascending there first last (Nat.le_refl _) (Nat.zero_le place) inside

theorem contains_of_text (text : String) (c : Char) :
    (ofText text).contains c = true ↔
      ∃ span ∈ spansFrom 0 (tokens text.toList), span.first ≤ c.toNat ∧ c.toNat ≤ span.last := by
  have ascending : Ascending (ofText text).toList := by
    rw [of_text_list]
    exact spans_from_ascending 0 _
  rw [contains_iff ascending, of_text_list]

end Bookmarks.Text.Spans
