import Bookmarks.Toml.Quoted
import Bookmarks.Toml.Scalar

/-!
Reading a TOML document. A reader is given the rest of the text and answers what it has read together
with what follows; it answers nothing where the text is no TOML.
-/
set_option autoImplicit false

namespace Bookmarks.Toml

-- The number of parts that a key may have, and the number of arrays and tables that may be open
-- inside one value.
def depthLimit : Nat := 79

def skipBlanks (text : List Char) : List Char := text.dropWhile isBlank

def skipComment : List Char → List Char
  | '#' :: rest => rest.dropWhile isPrintable
  | text => text

def skipGaps : List Char → List Char
  | [] => []
  | '\n' :: rest => skipGaps rest
  | '\r' :: '\n' :: rest => skipGaps rest
  | '#' :: rest => comment rest
  | c :: rest => if isBlank c then skipGaps rest else c :: rest
where
  comment : List Char → List Char
  | [] => []
  | '\n' :: rest => skipGaps rest
  | '\r' :: '\n' :: rest => skipGaps rest
  | c :: rest => if isPrintable c then comment rest else c :: rest

def lineEnd? (text : List Char) : Option (List Char) :=
  match skipComment (skipBlanks text) with
  | [] => some []
  | '\n' :: rest => some rest
  | '\r' :: '\n' :: rest => some rest
  | _ => none

def isBareChar (c : Char) : Bool := c.isAlphanum || c = '_' || c = '-'

def part? (text : List Char) : Option (List Char × List Char) :=
  match text.takeWhile isBareChar with
  | [] => quoted? text
  | bare => some (bare, text.drop bare.length)

-- A key of at most so many parts: the parts up to the last, the last, and what follows.
def key? : Nat → List Char → Option (List String × String × List Char)
  | 0, _ => none
  | parts + 1, text => do
    let (part, rest) ← part? (skipBlanks text)
    let name := String.ofList part
    match skipBlanks rest with
    | '.' :: rest => (key? parts rest).map fun (path, last, rest) => (name :: path, last, rest)
    | rest => some ([], name, rest)

mutual

-- A value. `depth` more arrays and tables may be opened in it, and `fuel` bounds its parts.
def value? : Nat → Nat → List Char → Option (Node × List Char)
  | 0, _, _ => none
  | _ + 1, 0, '[' :: _ => none
  | _ + 1, 0, '{' :: _ => none
  | fuel + 1, depth + 1, '[' :: rest =>
    (items? fuel depth rest).map fun (items, rest) => (.array items, rest)
  | fuel + 1, depth + 1, '{' :: rest =>
    match skipBlanks rest with
    | '}' :: rest => some (.table .enclosed [], rest)
    | rest => (pairs? fuel depth [] rest).map fun (entries, rest) => (.table .enclosed entries, rest)
  | _, _, text =>
    match quotedLines? text with
    | some (quoted, rest) => some (.text (String.ofList quoted), rest)
    | none =>
      let (first, rest) := word text
      (scalar? first).map (·, rest)

def items? : Nat → Nat → List Char → Option (List Node × List Char)
  | 0, _, _ => none
  | fuel + 1, depth, text =>
    match skipGaps text with
    | ']' :: rest => some ([], rest)
    | text => do
      let (item, rest) ← value? fuel depth text
      match skipGaps rest with
      | ',' :: rest => (items? fuel depth rest).map fun (items, rest) => (item :: items, rest)
      | ']' :: rest => some ([item], rest)
      | _ => none

def pairs? : Nat → Nat → Entries → List Char → Option (Entries × List Char)
  | 0, _, _, _ => none
  | fuel + 1, depth, entries, text => do
    let (path, last, rest) ← key? depthLimit text
    match rest with
    | '=' :: rest =>
      let (value, rest) ← value? fuel depth (skipBlanks rest)
      let entries ← assign path last value .enclosed entries
      match skipBlanks rest with
      | ',' :: rest => pairs? fuel depth entries rest
      | '}' :: rest => some (entries, rest)
      | _ => none
    | _ => none

end

-- What has been read of a document: its entries, and the path of the table under whose header the
-- next lines stand.
structure Draft where
  entries : Entries := []
  path : List String := []

def header? (draft : Draft) (opens : String → Form → Entries → Option Entries)
    (closing : List Char) (text : List Char) : Option (Draft × List Char) := do
  let (path, last, rest) ← key? depthLimit text
  if !closing.isPrefixOf rest then none
  let entries ← change .implied (opens last) path .named draft.entries
  let rest ← lineEnd? (rest.drop closing.length)
  return (⟨entries, path ++ [last]⟩, rest)

def assignment? (draft : Draft) (text : List Char) : Option (Draft × List Char) := do
  let (path, last, rest) ← key? depthLimit text
  match rest with
  | '=' :: rest =>
    let (value, rest) ← value? (2 * rest.length + 2) depthLimit (skipBlanks rest)
    let entries ← change .implied (assign path last value) draft.path .named draft.entries
    let rest ← lineEnd? rest
    return ({ draft with entries }, rest)
  | _ => none

def statement? (draft : Draft) (text : List Char) : Option (Draft × List Char) :=
  match skipBlanks text with
  | [] => some (draft, [])
  | '[' :: '[' :: rest => header? draft appendTable [']', ']'] rest
  | '[' :: rest => header? draft openTable [']'] rest
  | c :: rest =>
    if c = '#' || c = '\n' || c = '\r' then (lineEnd? (c :: rest)).map (draft, ·)
    else assignment? draft (c :: rest)

def statements? : Nat → Draft → List Char → Option Entries
  | _, draft, [] => some draft.entries
  | 0, _, _ => none
  | fuel + 1, draft, text => do
    let (draft, rest) ← statement? draft text
    statements? fuel draft rest

-- The entries of a document. A mark of byte order may stand in front of it.
def document? (text : String) : Option Entries :=
  let characters := match text.toList with
    | '\ufeff' :: rest => rest
    | characters => characters
  statements? characters.length {} characters

end Bookmarks.Toml
