import Bookmarks.Url.Direction
import Bookmarks.Url.Joining
import Bookmarks.Url.Mapping
import Bookmarks.Url.Punycode
import Bookmarks.Text.Normal

/-!
Domain names. A name is prepared for lookup character by character, brought into normal form and cut
into labels; each label has to be in good order, whether written out or in ASCII form.
-/
set_option autoImplicit false

namespace Bookmarks.Url

open Bookmarks.Text (normalForm)

def isAscii (text : List Char) : Bool := text.all (·.toNat < 128)

def isForbidden (c : Char) : Bool :=
  c.toNat ≤ 0x20 || c.toNat = 0x7f ||
  c ∈ ['#', '/', ':', '<', '>', '?', '@', '[', '\\', ']', '^', '|', '%']

def prepared? (name : List Char) : Option (List Char) := (mapCharacters name).map normalForm

def asciiMark : List Char := ['x', 'n', '-', '-']

-- Longer labels are refused.
def longestAsciiForm : Nat := 2000

def longestLabel : Nat := 1000

def label? (label : List Char) : Option (List Char) :=
  if asciiMark.isPrefixOf label then
    let form := label.drop asciiMark.length
    if longestAsciiForm < form.length then none
    else do
      let text ← Punycode.decode? form
      if isAscii text || prepared? text != some text then none else some text
  else if isAscii label || label.length ≤ longestLabel then some label
  else none

def isOrderly (label : List Char) : Bool :=
  isAscii label ||
  (!asciiMark.isPrefixOf label && !(label.head?.any marks.contains) && joinersPlaced [] label)

-- The labels of a name, if it is one; they are what is looked up, with ASCII forms kept.
def labels? (name : List Char) : Option (List (List Char)) := do
  let whole ← prepared? name
  let parts := whole.splitOn '.'
  let texts ← parts.mapM label?
  let directed := texts.any fun text => text.any isRightToLeft
  if whole.any isForbidden || !texts.all isOrderly || (directed && !texts.all directionAgrees) then
    none
  else some parts

end Bookmarks.Url
