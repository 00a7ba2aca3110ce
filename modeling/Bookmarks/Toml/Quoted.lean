import Bookmarks.Text.Hex

/-!
Quoted text in a TOML document: basic text, in which a backslash begins an escape, and literal text;
both in one line or, between three quotes, in several. Each function is given what follows the opening
quotes, and answers the text together with what follows the closing ones.
-/
set_option autoImplicit false

namespace Bookmarks.Toml

def isPrintable (c : Char) : Bool := c = '\t' || (' ' ≤ c && c ≠ '\x7f')

def isBlank (c : Char) : Bool := c = ' ' || c = '\t'

abbrev Taken := Option (List Char × List Char)

def Taken.cons (c : Char) (taken : Taken) : Taken :=
  taken.map fun (text, rest) => (c :: text, rest)

def characterOf? (digits : List Char) : Option Char :=
  let number := Text.Hex.number digits
  if digits.all Text.Hex.isDigit && number.isValidChar then some (Char.ofNat number) else none

def escape? : List Char → Option (Char × List Char)
  | 'b' :: rest => some ('\x08', rest)
  | 't' :: rest => some ('\t', rest)
  | 'n' :: rest => some ('\n', rest)
  | 'f' :: rest => some ('\x0c', rest)
  | 'r' :: rest => some ('\r', rest)
  | '"' :: rest => some ('"', rest)
  | '\\' :: rest => some ('\\', rest)
  | 'u' :: a :: b :: c :: d :: rest => (characterOf? [a, b, c, d]).map (·, rest)
  | 'U' :: a :: b :: c :: d :: e :: f :: g :: h :: rest =>
    (characterOf? [a, b, c, d, e, f, g, h]).map (·, rest)
  | _ => none

theorem escape?_length {text rest : List Char} {c : Char} (escaped : escape? text = some (c, rest)) :
    rest.length < text.length := by
  unfold escape? at escaped
  split at escaped
  case h_8 | h_9 =>
    obtain ⟨_, _, same⟩ := Option.map_eq_some_iff.1 escaped
    rw [← (Prod.mk.inj same).2]
    simp only [List.length_cons]
    omega
  case h_10 => exact nomatch escaped
  all_goals
    rw [← (Prod.mk.inj (Option.some.inj escaped)).2]
    simp

def basic : List Char → Taken
  | [] => none
  | '"' :: rest => some ([], rest)
  | '\\' :: rest =>
    match _escaped : escape? rest with
    | some (c, rest) => Taken.cons c (basic rest)
    | none => none
  | c :: rest => if isPrintable c then Taken.cons c (basic rest) else none
termination_by text => text.length
decreasing_by
  · have := escape?_length _escaped
    simp only [List.length_cons]
    omega
  · simp

def lineEnds (text : List Char) : Bool :=
  match text.dropWhile isBlank with
  | '\n' :: _ => true
  | '\r' :: '\n' :: _ => true
  | _ => false

-- Basic text in several lines. A backslash at the end of a line leaves out all blanks and ends of
-- lines up to the next character; `skipping` says that this is going on. Up to two quotes may stand
-- before the closing ones.
def basicLines (skipping : Bool) : List Char → Taken
  | [] => none
  | '\r' :: '\n' :: rest =>
    if skipping then basicLines true rest else Taken.cons '\n' (basicLines false rest)
  | '\n' :: rest =>
    if skipping then basicLines true rest else Taken.cons '\n' (basicLines false rest)
  | '"' :: '"' :: '"' :: '"' :: '"' :: rest => some (['"', '"'], rest)
  | '"' :: '"' :: '"' :: '"' :: rest => some (['"'], rest)
  | '"' :: '"' :: '"' :: rest => some ([], rest)
  | '\\' :: rest =>
    if lineEnds rest then basicLines true rest
    else
      match _escaped : escape? rest with
      | some (c, rest) => Taken.cons c (basicLines false rest)
      | none => none
  | c :: rest =>
    if skipping && isBlank c then basicLines true rest
    else if isPrintable c then Taken.cons c (basicLines false rest)
    else none
termination_by text => text.length
decreasing_by
  all_goals simp only [List.length_cons]
  all_goals try have := escape?_length _escaped
  all_goals omega

def literal : List Char → Taken
  | [] => none
  | '\'' :: rest => some ([], rest)
  | c :: rest => if isPrintable c then Taken.cons c (literal rest) else none

def literalLines : List Char → Taken
  | [] => none
  | '\r' :: '\n' :: rest => Taken.cons '\n' (literalLines rest)
  | '\n' :: rest => Taken.cons '\n' (literalLines rest)
  | '\'' :: '\'' :: '\'' :: '\'' :: '\'' :: rest => some (['\'', '\''], rest)
  | '\'' :: '\'' :: '\'' :: '\'' :: rest => some (['\''], rest)
  | '\'' :: '\'' :: '\'' :: rest => some ([], rest)
  | c :: rest => if isPrintable c then Taken.cons c (literalLines rest) else none

-- An end of line right behind the opening quotes does not count.
def withoutFirstEnd : List Char → List Char
  | '\n' :: rest => rest
  | '\r' :: '\n' :: rest => rest
  | text => text

def quoted? : List Char → Taken
  | '"' :: rest => basic rest
  | '\'' :: rest => literal rest
  | _ => none

def quotedLines? : List Char → Taken
  | '"' :: '"' :: '"' :: rest => basicLines false (withoutFirstEnd rest)
  | '\'' :: '\'' :: '\'' :: rest => literalLines (withoutFirstEnd rest)
  | text => quoted? text

end Bookmarks.Toml
