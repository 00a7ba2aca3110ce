/-!
Blank characters (the property White_Space) and trimming of blanks.
-/
set_option autoImplicit false

namespace Bookmarks.Text

def isBlank (c : Char) : Bool :=
  (9 ≤ c.toNat && c.toNat ≤ 13) || c.toNat == 0x20 || c.toNat == 0x85 || c.toNat == 0xa0 ||
  c.toNat == 0x1680 || (0x2000 ≤ c.toNat && c.toNat ≤ 0x200a) || c.toNat == 0x2028 ||
  c.toNat == 0x2029 || c.toNat == 0x202f || c.toNat == 0x205f || c.toNat == 0x3000

def trimBoth (drop : Char → Bool) (text : List Char) : List Char :=
  ((text.dropWhile drop).reverse.dropWhile drop).reverse

def trim (text : String) : String := String.ofList (trimBoth isBlank text.toList)

def isAllBlank (text : String) : Bool := text.toList.all isBlank

end Bookmarks.Text
