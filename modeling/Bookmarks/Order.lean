import Bookmarks.Decimal.Binary

/-!
The order of siblings. Every node has an ord; its siblings stand in ascending order of theirs. A node
that is inserted gets an ord between its neighbours, and no sibling changes. Where the neighbours are
too close for that, the siblings are numbered anew first.
-/
set_option autoImplicit false

namespace Bookmarks

class SiblingOrd (ω : Type) where
  ofNat : Nat → ω
  before : ω → ω
  after : ω → ω
  midpoint : ω → ω → ω
  -- The gap between two neighbours is narrower than a millionth.
  tooClose : ω → ω → Bool
  order : ω → ω → Ordering
  -- Equal as numbers, which may be less than identical.
  same : ω → ω → Bool
  -- The number that is read back after it has been stored, if it can be stored.
  stored? : ω → Option ω

instance : SiblingOrd Float where
  ofNat := Float.ofNat
  before x := x - 1
  after x := x + 1
  midpoint a b := (a + b) / 2
  tooClose a b := b - a < 1e-6
  order := Decimal.compareTotal
  same a b := a == b
  stored? x := if x.isNaN then none else if x == 0 then some 0 else some x

namespace Order

variable {ω : Type}

-- The position among `count` siblings that an index stands for: an index out of range is brought
-- into it, no index means the end.
def insertionPosition (count : Nat) : Option Int → Nat
  | none => count
  | some index => if index ≤ 0 then 0 else min index.toNat count

-- The ord of a node that is inserted among siblings in ascending order; none if the neighbours are
-- too close.
def allocate? [SiblingOrd ω] (siblings : List ω) (index : Option Int) : Option ω :=
  let position := insertionPosition siblings.length index
  match (siblings.take position).getLast?, (siblings.drop position).head? with
  | none, none => some (SiblingOrd.ofNat 0)
  | none, some first => some (SiblingOrd.before first)
  | some last, none => some (SiblingOrd.after last)
  | some left, some right =>
    if SiblingOrd.tooClose left right then none else some (SiblingOrd.midpoint left right)

def renumbered [SiblingOrd ω] (count : Nat) : List ω :=
  (List.range count).map SiblingOrd.ofNat

end Order

end Bookmarks
