import Bookmarks.Settings.Basic

/-!
The places that names of settings denote: `a.b` is `b` in the group `a`, and `a[0]` is the first item
of the list `a`; a number below zero counts from the end. A name that does not read so denotes itself.
-/
set_option autoImplicit false

namespace Bookmarks

namespace Setting

inductive Step where
  | member (name : String)
  | item (index : Int)
deriving DecidableEq, Repr

namespace Step

def isNameChar (c : Char) : Bool := c.isAlphanum || c = ' ' || c = '_' || c = '-'

def index? (text : List Char) : Option Int :=
  let isBlank (c : Char) : Bool := c = ' ' || c = '\t'
  let trimmed := ((text.dropWhile isBlank).reverse.dropWhile isBlank).reverse
  let digits := if trimmed.head? = some '-' then trimmed.drop 1 else trimmed
  let n : Int := digits.foldl (fun n c => 10 * n + (c.toNat - '0'.toNat)) 0
  let index := if trimmed.head? = some '-' then -n else n
  if digits.isEmpty || !digits.all Char.isDigit then none
  else if -0x8000000000000000 ≤ index ∧ index < 0x8000000000000000 then some index
  else none

def further? : List Char → Option (List Step)
  | [] => some []
  | '.' :: rest =>
    let name := rest.takeWhile isNameChar
    if name.isEmpty then none
    else (further? (rest.dropWhile isNameChar)).map (.member (String.ofList name) :: ·)
  | '[' :: rest =>
    match _closed : rest.dropWhile (· != ']') with
    | ']' :: more => do
      let index ← index? (rest.takeWhile (· != ']'))
      return .item index :: (← further? more)
    | _ => none
  | _ => none
termination_by text => text.length
decreasing_by
  · have shorter := (List.dropWhile_sublist isNameChar (l := rest)).length_le
    simp only [List.length_cons]
    omega
  · have shorter := (List.dropWhile_sublist (· != ']') (l := rest)).length_le
    rw [_closed] at shorter
    simp only [List.length_cons] at shorter ⊢
    omega

def ofName (name : String) : String × List Step :=
  let first := name.toList.takeWhile isNameChar
  let steps? := if first.isEmpty then none else further? (name.toList.drop first.length)
  match steps? with
  | some steps => (String.ofList first, steps)
  | none => (name, [])

end Step

-- Puts a setting at the end of some steps. What is in the way becomes a group or a list.
def put (incoming : Setting) : Step → List Step → Setting → Setting
  | .member name, [], target =>
    let name := Text.lowerCase name
    .group (Keyed.place name (merged (target.under? name) incoming) target.entries)
  | .member name, next :: steps, target =>
    let name := Text.lowerCase name
    let inner := put incoming next steps ((target.under? name).getD nothing)
    .group (Keyed.place name inner target.entries)
  | .item index, steps, target =>
    let place := if index < 0 then target.items.length - index.natAbs else index.toNat
    .list (changeItem place (fun item => putItem item steps) target.items)
where
  putItem (item : Setting) : List Step → Setting
    | [] => incoming
    | next :: steps => put incoming next steps item

def putNamed (target : Setting) (entry : String × Setting) : Setting :=
  let (first, steps) := Step.ofName entry.1
  put entry.2 (.member first) steps target

def putAll (target : Setting) (entries : List (String × Setting)) : Setting :=
  entries.foldl putNamed target

end Setting

end Bookmarks
