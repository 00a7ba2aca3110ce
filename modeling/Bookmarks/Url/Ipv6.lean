import Bookmarks.Url.Ipv4

/-!
Addresses of eight pieces of 16 bits, in hexadecimal with colons between. Two colons stand for as many
pieces as are missing, once; the last two pieces may be written as an address of four bytes.
-/
set_option autoImplicit false

namespace Bookmarks.Url.Ipv6

-- Whether the rest of an address fits what came before: how many pieces there were, and whether two
-- colons were among them.
def completes (pieces : Nat) (shortened : Bool) : List Char → Bool
  | [] => shortened || pieces == 8
  | c :: rest =>
    if 8 ≤ pieces then false
    else if c = ':' then !shortened && completes (pieces + 1) true rest
    else
      let digits := ((c :: rest).take 4).takeWhile Text.Hex.isDigit
      match later : rest.drop (digits.length - 1) with
      | [] => !digits.isEmpty && (shortened || pieces + 1 == 8)
      | '.' :: _ =>
        !digits.isEmpty && pieces ≤ 6 && Ipv4.isPlain (c :: rest) &&
        (shortened || pieces + 2 == 8)
      | [':'] => false
      | ':' :: more => !digits.isEmpty && completes (pieces + 1) shortened more
      | _ => false
termination_by text => text.length
decreasing_by
  · simp
  · have := congrArg List.length later
    simp only [List.length_drop, List.length_cons] at this ⊢
    omega

def isAddress : List Char → Bool
  | ':' :: ':' :: rest => completes 1 true rest
  | ':' :: _ => false
  | text => 2 ≤ text.length && completes 0 false text

end Bookmarks.Url.Ipv6
