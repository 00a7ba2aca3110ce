/-!
Texts within texts.
-/
set_option autoImplicit false

namespace Bookmarks

def isPart (part : List Char) : List Char → Bool
  | [] => part.isEmpty
  | c :: rest => part.isPrefixOf (c :: rest) || isPart part rest

end Bookmarks
