/-!
Bytes as text. Bytes that are no UTF-8 keep their place, so that text around them can still be read.
-/
set_option autoImplicit false

namespace Bookmarks.Text

-- A character, or a byte that belongs to none.
abbrev Glyph := Option Char

def isContinuation (b : UInt8) : Bool := 0x80 ≤ b && b ≤ 0xbf

-- The bits of the bytes behind the first, six each, below the bits that the first contributes.
def codePoint (lead : Nat) (rest : List UInt8) : Nat :=
  rest.foldl (fun n b => 64 * n + (b.toNat - 0x80)) lead

-- The character that a sequence of `1 + rest.length` bytes stands for: one that needs that many.
def character? (lead least : Nat) (rest : List UInt8) : Option Char :=
  let code := codePoint lead rest
  if rest.all isContinuation && least ≤ code && Nat.isValidChar code then some (Char.ofNat code)
  else none

def firstCharacter? (first : UInt8) (rest : List UInt8) : Option (Char × Nat) :=
  let sequence (further lead least : Nat) :=
    if rest.length < further then none
    else (character? lead least (rest.take further)).map fun c => (c, further)
  if first < 0x80 then some (Char.ofNat first.toNat, 0)
  else if 0xc2 ≤ first && first ≤ 0xdf then sequence 1 (first.toNat - 0xc0) 0x80
  else if 0xe0 ≤ first && first ≤ 0xef then sequence 2 (first.toNat - 0xe0) 0x800
  else if 0xf0 ≤ first && first ≤ 0xf4 then sequence 3 (first.toNat - 0xf0) 0x10000
  else none

def glyphs : List UInt8 → List Glyph
  | [] => []
  | first :: rest =>
    match firstCharacter? first rest with
    | some (c, further) => some c :: glyphs (rest.drop further)
    | none => none :: glyphs rest
termination_by bytes => bytes.length
decreasing_by
  · simp only [List.length_drop, List.length_cons]; omega
  · simp

def ofBytes? (bytes : List UInt8) : Option (List Char) := (glyphs bytes).mapM id

def bytes (text : String) : List UInt8 := text.toUTF8.toList

def glyphsOf (text : String) : List Glyph := text.toList.map some

end Bookmarks.Text
