/-!
Domain labels in ASCII: the characters beyond ASCII are inserted one by one into the others, each at a
place that is a distance, in digits of a varying weight, from the one before.
-/
set_option autoImplicit false

namespace Bookmarks.Url.Punycode

def digit? (c : Char) : Option Nat :=
  if 'a' ≤ c ∧ c ≤ 'z' then some (c.toNat - 'a'.toNat)
  else if 'A' ≤ c ∧ c ≤ 'Z' then some (c.toNat - 'A'.toNat)
  else if '0' ≤ c ∧ c ≤ '9' then some (c.toNat - '0'.toNat + 26)
  else none

-- Below which digit a number ends, `place` being 36 for its first digit, 72 for its second.
def threshold (place bias : Nat) : Nat :=
  if place ≤ bias then 1 else if bias + 26 ≤ place then 26 else place - bias

def scale (delta : Nat) : Nat :=
  if 455 < delta then scale (delta / 35) + 36 else 36 * delta / (delta + 38)
termination_by delta

def adapt (delta characters : Nat) (first : Bool) : Nat :=
  let halved := if first then delta / 700 else delta / 2
  scale (halved + halved / characters)

-- Numbers have to fit into 32 bits.
def fits (n : Nat) : Bool := n < 0x100000000

structure State where
  text : List Char
  code : Nat := 128
  place : Nat := 0
  bias : Nat := 72

def State.insert? (state : State) (distance : Nat) : Option State :=
  let moved := state.place + distance
  let characters := state.text.length + 1
  let code := state.code + moved / characters
  let place := moved % characters
  if Nat.isValidChar code then
    some ⟨state.text.insertIdx place (Char.ofNat code), code, place + 1,
      adapt distance characters (state.place = 0)⟩
  else none

-- Reads the digits of distances: `distance` is what the current one amounts to so far, `weight`
-- what its next digit weighs; a `place` of zero stands between two distances.
def insertAll? (state : State) (place weight distance : Nat) : List Char → Option (List Char)
  | [] => if place = 0 then some state.text else none
  | c :: rest =>
    match digit? c with
    | none => none
    | some digit =>
      let place := place + 36
      let distance := distance + digit * weight
      let least := threshold place state.bias
      if !(fits (digit * weight) && fits (state.place + distance)) then none
      else if digit < least then (state.insert? distance).bind (insertAll? · 0 1 0 rest)
      else if fits (weight * (36 - least)) then
        insertAll? state place (weight * (36 - least)) distance rest
      else none

-- The characters before the last hyphen, and those behind it; a hyphen at the start counts for
-- nothing.
def split (text : List Char) : List Char × List Char :=
  let behind := (text.reverse.takeWhile (· != '-')).reverse
  let before := text.take (text.length - behind.length - 1)
  if before.isEmpty then ([], text) else (before, behind)

def decode? (text : List Char) : Option (List Char) :=
  let (basic, digits) := split text
  if basic.all (·.toNat < 128) then insertAll? ⟨basic, 128, 0, 72⟩ 0 1 0 digits else none

end Bookmarks.Url.Punycode
