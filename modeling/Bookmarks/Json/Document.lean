import Bookmarks.Json.Token

/-!
JSON text as a tree that also has a place for what is wrong with the text, so that a reader who goes
through it in order meets the first problem first.
-/
set_option autoImplicit false

namespace Bookmarks.Json

inductive Found where
  | null
  | bool (b : Bool)
  | num (n : Number)
  | str (s : String)
  | sequence
  | map
deriving Repr

-- How a list or an object ends: with its bracket, with something that cannot be read, or with
-- something that is no text where a name has to stand.
inductive Ending where
  | closed
  | broken
  | odd (found : Found)
deriving Repr

inductive Document where
  | broken
  | null
  | bool (b : Bool)
  | num (n : Option Number)
  | str (s : Option String)
  | arr (items : List Document) (ending : Ending)
  | obj (members : List (Option String × Document)) (ending : Ending)
deriving Repr, Inhabited

def Document.found? : Document → Option Found
  | .broken => none
  | .null => some .null
  | .bool b => some (.bool b)
  | .num n => n.map .num
  | .str s => s.map .str
  | .arr _ _ => some .sequence
  | .obj _ _ => some .map

def Ending.isClosed : Ending → Bool
  | .closed => true
  | _ => false

mutual

def Document.isWhole : Document → Bool
  | .broken => false
  | .arr items ending => Document.areWhole items && ending.isClosed
  | .obj members ending => Document.membersWhole members && ending.isClosed
  | _ => true

def Document.areWhole : List Document → Bool
  | [] => true
  | item :: rest => item.isWhole && Document.areWhole rest

def Document.membersWhole : List (Option String × Document) → Bool
  | [] => true
  | member :: rest => member.2.isWhole && Document.membersWhole rest

end

inductive Open where
  | items (done : List Document)
  | members (done : List (Option String × Document))
  | member (done : List (Option String × Document)) (name : Option String)
deriving Repr

namespace Open

def close (ending : Ending) : Open → Document
  | .items done => .arr done.reverse ending
  | .members done => .obj done.reverse ending
  | .member done name => .obj ((name, .broken) :: done).reverse ending

def add (part : Document) : Open → Open
  | .items done => .items (part :: done)
  | .members done => .members done
  | .member done name => .members ((name, part) :: done)

-- Everything that is open ends where the text cannot be read any further.
def abandon (part : Document) : List Open → Document
  | [] => part
  | innermost :: rest => abandon ((innermost.add part).close .broken) rest

def abandonAt (ending : Ending) : List Open → Document
  | [] => .broken
  | innermost :: rest => abandon (innermost.close ending) rest

end Open

inductive Expected where
  | value
  | itemOrEnd
  | nameOrEnd
  | name
  | colon
  | next
deriving Repr, DecidableEq

inductive Step where
  | more (expected : Expected) (stack : List Open)
  | finished (root : Document)
  | stuck (root : Document)

namespace Step

def finish (part : Document) : List Open → Step
  | [] => .finished part
  | innermost :: rest => .more .next (innermost.add part :: rest)

def closing : List Open → Step
  | [] => .stuck .broken
  | innermost :: rest => finish (innermost.close .closed) rest

def value (stack : List Open) : Token → Step
  | .openArray => .more .itemOrEnd (.items [] :: stack)
  | .openObject => .more .nameOrEnd (.members [] :: stack)
  | .null => finish .null stack
  | .bool b => finish (.bool b) stack
  | .num n => finish (.num n) stack
  | .str s => finish (.str s) stack
  | _ => .stuck (Open.abandon .broken stack)

def oddEnding : Token → Ending
  | .null => .odd .null
  | .bool b => .odd (.bool b)
  | .num (some n) => .odd (.num n)
  | .openArray => .odd .sequence
  | .openObject => .odd .map
  | _ => .broken

def name (stack : List Open) (token : Token) : Step :=
  match token, stack with
  | .str name, .members done :: rest => .more .colon (.member done name :: rest)
  | _, _ => .stuck (Open.abandonAt (oddEnding token) stack)

def next (stack : List Open) (token : Token) : Step :=
  match token, stack with
  | .comma, .items _ :: _ => .more .value stack
  | .comma, .members _ :: _ => .more .name stack
  | .closeArray, .items _ :: _ => closing stack
  | .closeObject, .members _ :: _ => closing stack
  | _, _ => .stuck (Open.abandonAt .broken stack)

def of (expected : Expected) (stack : List Open) (token : Token) : Step :=
  match expected, token with
  | .value, _ => value stack token
  | .itemOrEnd, .closeArray => closing stack
  | .itemOrEnd, _ => value stack token
  | .nameOrEnd, .closeObject => closing stack
  | .nameOrEnd, _ => name stack token
  | .name, _ => name stack token
  | .colon, .colon => .more .value stack
  | .colon, _ => .stuck (Open.abandonAt .broken stack)
  | .next, _ => next stack token

end Step

namespace Document

def cut (expected : Expected) (stack : List Open) : Document :=
  match expected with
  | .value => Open.abandon .broken stack
  | _ => Open.abandonAt .broken stack

def read (expected : Expected) (stack : List Open) : List Token → Document × List Token
  | [] => (cut expected stack, [])
  | token :: rest =>
    match Step.of expected stack token with
    | .more expected stack => read expected stack rest
    | .finished root => (root, rest)
    | .stuck root => (root, [.bad])

end Document

structure Source where
  root : Document
  isAll : Bool
deriving Repr

namespace Source

def ofTokens (tokens : List Token) : Source :=
  let (root, rest) := Document.read .value [] tokens
  ⟨root, rest.isEmpty⟩

def ofText (text : String) : Source := ofTokens (Token.ofGlyphs (Text.glyphsOf text))

def ofBytes (bytes : List UInt8) : Source := ofTokens (Token.ofGlyphs (Text.glyphs bytes))

end Source

mutual

def Value.document : Value → Document
  | .null => .null
  | .bool b => .bool b
  | .num n => .num (some n)
  | .str s => .str (some s)
  | .arr items => .arr (Value.documents items) .closed
  | .obj members => .obj (Value.memberDocuments members) .closed

def Value.documents : List Value → List Document
  | [] => []
  | item :: rest => item.document :: Value.documents rest

def Value.memberDocuments : List (String × Value) → List (Option String × Document)
  | [] => []
  | member :: rest => (some member.1, member.2.document) :: Value.memberDocuments rest

end

end Bookmarks.Json
