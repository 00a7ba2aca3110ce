import Bookmarks.Text.Printable

/-!
Texts in double quotes, as error messages show them. A quote, a backslash and the four common
controls have short escapes; other characters that are not shown appear by number.
-/
set_option autoImplicit false

namespace Bookmarks.Text

def hexText (n : Nat) : String := String.ofList (Nat.toDigits 16 n)

def quotedChar (c : Char) : String :=
  match c with
  | '"' => "\\\""
  | '\\' => "\\\\"
  | '\n' => "\\n"
  | '\r' => "\\r"
  | '\t' => "\\t"
  | '\x00' => "\\0"
  | c => if isShown c then c.toString else "\\u\x7b" ++ hexText c.toNat ++ "\x7d"

def quoted (text : String) : String :=
  "\"" ++ String.join (text.toList.map quotedChar) ++ "\""

end Bookmarks.Text
