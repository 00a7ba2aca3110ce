import Bookmarks.Json.Value

/-!
Looking into values without complaint: a member that is missing, null or of another kind is as good as
none.
-/
set_option autoImplicit false

namespace Bookmarks.Json.Value

def field? (value : Value) (name : String) : Option Value := (value.member? name).filter (!·.isNull)

def asText? : Value → Option String
  | .str s => some s
  | _ => none

def asInt? : Value → Option Int
  | .num (.int n) => if n < 0x8000000000000000 then some n else none
  | _ => none

def items : Value → List Value
  | .arr items => items
  | _ => []

def text? (value : Value) (name : String) : Option String := (value.field? name).bind asText?

def text (value : Value) (name : String) : String := (value.text? name).getD ""

def int? (value : Value) (name : String) : Option Int := (value.field? name).bind asInt?

def natural (value : Value) (name : String) : Nat := ((value.int? name).map Int.toNat).getD 0

def isSet (value : Value) (name : String) : Bool :=
  match value.member? name with
  | some (.bool b) => b
  | _ => false

def list (value : Value) (name : String) : List Value := ((value.field? name).map items).getD []

def texts (value : Value) (name : String) : List String := (value.list name).filterMap asText?

mutual

def mapTexts (f : String → String) : Value → Value
  | .str s => .str (f s)
  | .arr items => .arr (mapItems f items)
  | .obj members => .obj (mapMembers f members)
  | atom => atom

def mapItems (f : String → String) : List Value → List Value
  | [] => []
  | item :: rest => mapTexts f item :: mapItems f rest

def mapMembers (f : String → String) : List (String × Value) → List (String × Value)
  | [] => []
  | member :: rest => (f member.1, mapTexts f member.2) :: mapMembers f rest

end

def updated (value : Value) (name : String) (f : Value → Value) : Value :=
  match value with
  | .obj members => .obj (members.map fun (n, member) => (n, if n = name then f member else member))
  | other => other

end Bookmarks.Json.Value
