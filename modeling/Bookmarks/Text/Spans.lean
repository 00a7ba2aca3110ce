import Bookmarks.Text.Hex

/-!
Tables over code points: ascending spans, each with a list of numbers attached. A table is written
as text, one token a span and blanks between: the gap from the end of the span before it, `+` and the number of further
code points if there is more than one, `=` and the attached numbers with `.` between them. All
numbers are hexadecimal.
-/
set_option autoImplicit false

namespace Bookmarks.Text

-- The code points from `first` to `last`, both included, and what is attached to them.
structure Span where
  first : Nat
  last : Nat
  attached : List Nat
deriving Repr, DecidableEq, Inhabited

abbrev Spans := Array Span

namespace Spans

-- The span that one token describes, after a table that ends before `next`.
def ofToken (next : Nat) (token : List Char) : Span :=
  let place := token.takeWhile (· != '=')
  let attached := (token.dropWhile (· != '=')).drop 1
  let first := next + Hex.number (place.takeWhile (· != '+'))
  let further := Hex.number ((place.dropWhile (· != '+')).drop 1)
  let numbers := if attached.isEmpty then [] else (attached.splitOn '.').map Hex.number
  ⟨first, first + further, numbers⟩

def ofText (text : String) : Spans :=
  let step := fun (found : Spans) (token : List Char) =>
    let next := match found.back? with
      | some span => span.last + 1
      | none => 0
    found.push (ofToken next token)
  ((text.toList.splitOnP Char.isWhitespace).filter (!·.isEmpty)).foldl step #[]

-- Binary search among the spans from `low` up to, but without, `high`.
def search (spans : Spans) (point : Nat) (low high : Nat) : Option Span :=
  if _nonempty : low < high then
    let middle := low + (high - low) / 2
    match spans[middle]? with
    | none => none
    | some span =>
      if point < span.first then search spans point low middle
      else if span.last < point then search spans point (middle + 1) high
      else some span
  else none
termination_by high - low

def find? (spans : Spans) (c : Char) : Option Span := search spans c.toNat 0 spans.size

def contains (spans : Spans) (c : Char) : Bool := (find? spans c).isSome

def characters? (spans : Spans) (c : Char) : Option (List Char) :=
  (find? spans c).map fun span => span.attached.map Char.ofNat

-- The first number that a table attaches to a character, as the number of a class.
def class? (spans : Spans) (c : Char) : Option Nat :=
  (find? spans c).bind fun span => span.attached.head?

theorem search_holds {spans : Spans} {point low high : Nat} {span : Span}
    (found : search spans point low high = some span) :
    span.first ≤ point ∧ point ≤ span.last := by
  fun_induction search spans point low high with
  | case1 => simp at found
  | case2 low high _ _ _ _ _ ih => exact ih found
  | case3 low high _ _ _ _ _ _ ih => exact ih found
  | case4 low high _ _ _ _ notBelow notAbove =>
    simp only [Option.some.injEq] at found
    subst found
    omega
  | case5 => simp at found

end Spans

end Bookmarks.Text
