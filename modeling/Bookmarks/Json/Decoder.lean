import Bookmarks.Json.Problem

/-!
Reading JSON as something particular. A decoder goes through a document in its order and stops at the
first problem. The same decoder reads text and values that have been read before; the two differ in
how deep they may nest and in what they say about a list that is too long or a variant that is
neither text nor object.
-/
set_option autoImplicit false

namespace Bookmarks.Json

-- Where a document comes from: text, with the number of levels that may still be opened plus one; a
-- value; or the content of a variant that has been told apart by its tag.
inductive Form where
  | text (room : Nat)
  | value
  | content
deriving Repr, DecidableEq

-- Lists and objects in text nest 127 deep at most.
def Form.ofText : Form := .text 128

def Form.enter : Form → Except Problem Form
  | .text (room + 2) => .ok (.text (room + 1))
  | .text _ => .error .malformed
  | form => .ok form

abbrev Decoder (α : Type) := Form → Document → Except Problem α

namespace Decoder

variable {α β : Type}

def mismatch (expected : String) (document : Document) : Except Problem α :=
  match document.found? with
  | some found => .error (.shape (.type found expected))
  | none => .error .malformed

def closed (ending : Ending) (result : α) : Except Problem α :=
  if ending.isClosed then .ok result else .error .malformed

mutual

def value (form : Form) : Document → Except Problem Value
  | .broken => .error .malformed
  | .null => .ok .null
  | .bool b => .ok (.bool b)
  | .num (some n) => .ok (.num n)
  | .num none => .error .malformed
  | .str (some s) => .ok (.str s)
  | .str none => .error .malformed
  | .arr items ending => do
    let inner ← form.enter
    closed ending (.arr (← values inner items))
  | .obj members ending => do
    let inner ← form.enter
    closed ending (Value.ofMembers (← memberValues inner members))

def values (form : Form) : List Document → Except Problem (List Value)
  | [] => .ok []
  | item :: rest => do
    let first ← value form item
    return first :: (← values form rest)

def memberValues (form : Form) :
    List (Option String × Document) → Except Problem (List (String × Value))
  | [] => .ok []
  | (none, _) :: _ => .error .malformed
  | (some name, member) :: rest => do
    let first ← value form member
    return (name, first) :: (← memberValues form rest)

end

def text : Decoder String := fun _ document =>
  match document with
  | .str (some s) => .ok s
  | other => mismatch "a string" other

def flag : Decoder Bool := fun _ document =>
  match document with
  | .bool b => .ok b
  | other => mismatch "a boolean" other

def integer : Decoder Int := fun _ document =>
  match document with
  | .num (some (.int n)) =>
    if n < 0x8000000000000000 then .ok n else .error (.shape (.integer n "i64"))
  | other => mismatch "i64" other

def float : Decoder Float := fun _ document =>
  match document with
  | .num (some n) => .ok n.toFloat
  | other => mismatch "f64" other

def unit : Decoder Unit := fun _ document =>
  match document with
  | .null => .ok ()
  | other => mismatch "unit" other

def option (decode : Decoder α) : Decoder (Option α) := fun form document =>
  match document with
  | .null => .ok none
  | other => (decode form other).map some

def items (decode : Decoder α) (form : Form) : List Document → Except Problem (List α)
  | [] => .ok []
  | item :: rest => do
    let first ← decode form item
    return first :: (← items decode form rest)

def list (decode : Decoder α) : Decoder (List α) := fun form document =>
  match document with
  | .arr parts ending => do
    let inner ← form.enter
    closed ending (← items decode inner parts)
  | other => mismatch "a sequence" other

def entries (decode : Decoder α) (form : Form) :
    List (Option String × Document) → Except Problem (List (String × α))
  | [] => .ok []
  | (none, _) :: _ => .error .malformed
  | (some name, member) :: rest => do
    let first ← decode form member
    return (name, first) :: (← entries decode form rest)

def keyed (decode : Decoder α) : Decoder (Keyed α) := fun form document =>
  match document with
  | .obj members ending => do
    let inner ← form.enter
    closed ending (Keyed.ofList (← entries decode inner members))
  | other => mismatch "a map" other

def variant (known : List (String × α)) (name : String) : Except Problem α :=
  match Keyed.lookup name known with
  | some a => .ok a
  | none => .error (.shape (.variant name (known.map (·.1))))

def choice (known : List (String × α)) : Decoder α := fun form document =>
  match document, form with
  | .str (some name), _ => variant known name
  | .obj [] (.odd found), .text _ => do
    let _ ← form.enter
    .error (.shape (.type found "variant identifier"))
  | .obj ((some name, payload) :: rest) ending, .text _ => do
    let inner ← form.enter
    let chosen ← variant known name
    unit inner payload
    if rest.isEmpty then closed ending chosen else .error .malformed
  | _, .text _ => .error .malformed
  | .obj [(some name, payload)] _, _ => do
    let chosen ← variant known name
    unit form payload
    return chosen
  | .obj _ _, _ => .error (.shape .notOneKey)
  | other, _ => mismatch "string or map" other

end Decoder

-- A field of a record: what it is called, how its value is checked, and whether a record that is
-- given as a list may end before it.
structure Field where
  name : String
  check : Form → Document → Except Problem Unit
  mayEnd : Bool

abbrev Slots := List (String × Document)

structure Record (α : Type) where
  fields : List Field
  assemble : Form → Slots → Except Problem α

namespace Record

variable {α β : Type}

instance : Functor Record where
  map f record := ⟨record.fields, fun form slots => (record.assemble form slots).map f⟩

instance : Seq Record where
  seq first second :=
    ⟨first.fields ++ (second ()).fields, fun form slots => do
      let f ← first.assemble form slots
      let a ← (second ()).assemble form slots
      return f a⟩

def checked (decode : Decoder α) (form : Form) (document : Document) : Except Problem Unit :=
  (decode form document).map fun _ => ()

def field (name : String) (decode : Decoder α) (mayEnd : Bool)
    (missing : Except Problem α) : Record α :=
  ⟨[⟨name, checked decode, mayEnd⟩], fun form slots =>
    match Keyed.lookup name slots with
    | some document => decode form document
    | none => missing⟩

def required (name : String) (decode : Decoder α) : Record α :=
  field name decode false (.error (.shape (.missing name)))

-- A field that may be missing from an object but not from a list.
def nullable (name : String) (decode : Decoder α) : Record (Option α) :=
  field name (Decoder.option decode) false (.ok none)

def optional (name : String) (decode : Decoder α) : Record (Option α) :=
  field name (Decoder.option decode) true (.ok none)

-- A field that may be missing but not null.
def defaulted (name : String) (decode : Decoder α) (default : α) : Record α :=
  field name decode true (.ok default)

def slotsOf (fields : List Field) (form : Form) (seen : Slots) :
    List (Option String × Document) → Except Problem Slots
  | [] => .ok seen
  | (none, _) :: _ => .error .malformed
  | (some name, member) :: rest =>
    match fields.find? fun field => field.name == name with
    | none => if member.isWhole then slotsOf fields form seen rest else .error .malformed
    | some field => do
      if (Keyed.lookup name seen).isSome then throw (.shape (.duplicate name))
      field.check form member
      slotsOf fields form ((name, member) :: seen) rest

def slotsAlong (name : String) (count : Nat) (form : Form) (ending : Ending) (index : Nat) :
    List Field → List Document → Except Problem Slots
  | [], _ => .ok []
  | field :: fields, item :: items => do
    field.check form item
    return (field.name, item) :: (← slotsAlong name count form ending (index + 1) fields items)
  | field :: fields, [] =>
    if !ending.isClosed then .error .malformed
    else if field.mayEnd then slotsAlong name count form ending (index + 1) fields []
    else .error (.shape (.length index (.fieldsOf name count)))

def tooLong (form : Form) (items fields : Nat) : Problem :=
  match form with
  | .text _ => .malformed
  | .value => .shape (.length items .fewerItems)
  | .content => .shape (.length items (.items fields))

def ofMembers (record : Record α) (form : Form) (members : List (Option String × Document))
    (ending : Ending) : Except Problem α := do
  let inner ← form.enter
  let slots ← slotsOf record.fields inner [] members
  Decoder.closed ending ()
  record.assemble inner slots

def ofItems (record : Record α) (name : String) (form : Form) (items : List Document)
    (ending : Ending) : Except Problem α := do
  let inner ← form.enter
  let count := record.fields.length
  let slots ← slotsAlong name count inner ending 0 record.fields items
  let result ← record.assemble inner slots
  if count < items.length then throw (tooLong form items.length count)
  Decoder.closed ending result

def decoder (record : Record α) (name : String) : Decoder α := fun form document =>
  match document with
  | .obj members ending => record.ofMembers form members ending
  | .arr items ending => record.ofItems name form items ending
  | other => Decoder.mismatch name other

end Record

namespace Decoder

variable {α : Type}

def ofValue (decode : Decoder α) (value : Value) : Except Problem α := decode .value value.document

def ofSource (decode : Decoder α) (source : Source) : Except Problem α := do
  let result ← decode .ofText source.root
  if source.isAll then return result else throw .malformed

end Decoder

end Bookmarks.Json
