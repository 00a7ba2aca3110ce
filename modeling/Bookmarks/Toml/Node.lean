import Bookmarks.Keyed

/-!
What a TOML document holds, and how its statements build it: a header opens a table, a statement under
it gives a value to a key. A table may be named once; parts of its path that no header names come into
being by themselves.
-/
set_option autoImplicit false

namespace Bookmarks.Toml

-- How a table came about: by its own header, by a longer header, by the dots of a key, or as a
-- value between braces.
inductive Form where
  | named
  | implied
  | dotted
  | enclosed
deriving DecidableEq, Repr

-- A date or a time is its text. `tables` is a list of tables, each of which a header of its own has
-- opened.
inductive Node where
  | text (s : String)
  | integer (n : Int)
  | float (x : Float)
  | boolean (b : Bool)
  | array (items : List Node)
  | table (form : Form) (entries : List (String × Node))
  | tables (each : List (List (String × Node)))

abbrev Entries := List (String × Node)

def changeLast {α : Type} (f : α → Option α) : List α → Option (List α)
  | [] => none
  | [last] => (f last).map ([·])
  | head :: rest => (changeLast f rest).map (head :: ·)

-- Changes the table at the end of a path. Tables on the way that are missing come into being with
-- the form `made`; of a list of tables the last one counts. The dots of a key do not reach into a
-- named table, and nothing reaches into a value.
def change (made : Form) (act : Form → Entries → Option Entries) :
    List String → Form → Entries → Option Entries
  | [], form, entries => act form entries
  | key :: path, _, entries =>
    let put (node : Node) : Entries := Keyed.place key node entries
    match Keyed.lookup key entries with
    | none => (change made act path made []).map fun inner => put (.table made inner)
    | some (.tables each) =>
      (changeLast (change made act path .named) each).map fun each => put (.tables each)
    | some (.table form inner) =>
      if form = .enclosed || (made = .dotted && form = .named) then none
      else (change made act path form inner).map fun inner => put (.table form inner)
    | some _ => none

-- Gives a value to a key that has none. A table that dots have made takes values through dots only,
-- and any other table at the end of dots takes none.
def give (key : String) (value : Node) (throughDots : Bool) (form : Form) (entries : Entries) :
    Option Entries :=
  if throughDots = (form = .dotted) && (Keyed.lookup key entries).isNone then
    some (Keyed.place key value entries)
  else none

def assign (path : List String) (key : String) (value : Node) (form : Form) (entries : Entries) :
    Option Entries :=
  change .dotted (give key value !path.isEmpty) path form entries

-- The header of a table: it is missing or only implied so far.
def openTable (key : String) (_ : Form) (entries : Entries) : Option Entries :=
  match Keyed.lookup key entries with
  | none => some (Keyed.place key (.table .named []) entries)
  | some (.table .implied inner) => some (Keyed.place key (.table .named inner) entries)
  | some _ => none

def appendTable (key : String) (_ : Form) (entries : Entries) : Option Entries :=
  match Keyed.lookup key entries with
  | none => some (Keyed.place key (.tables [[]]) entries)
  | some (.tables each) => some (Keyed.place key (.tables (each ++ [[]])) entries)
  | some _ => none

end Bookmarks.Toml
