import Bookmarks.Text.Quoted

/-!
The rules that an operation of a batch can break, and how that is reported.
-/
set_option autoImplicit false

namespace Bookmarks

inductive Violation where
  | invalidParent (parentId : String)
  | invalidIndex (index : Int) (max : Nat)
  | invalidUrl (url : String)
  | invalidNode (nodeId : String)
  | rootImmutable
  | cycleDetected (nodeId newParentId : String)
deriving DecidableEq, Repr

namespace Violation

def reason : Violation → String
  | .invalidParent _ => "invalid_parent"
  | .invalidIndex _ _ => "invalid_index"
  | .invalidUrl _ => "invalid_url"
  | .invalidNode _ => "invalid_node"
  | .rootImmutable => "root_immutable"
  | .cycleDetected _ _ => "cycle_detected"

def message : Violation → String
  | .invalidParent parentId => "invalid parent: " ++ parentId
  | .invalidIndex index max =>
    "invalid index " ++ toString index ++ " (allowed 0..=" ++ toString max ++ ")"
  | .invalidUrl url => "invalid url: " ++ Text.quoted url
  | .invalidNode nodeId => "invalid node: " ++ nodeId
  | .rootImmutable => "root node is immutable"
  | .cycleDetected nodeId newParentId =>
    "cycle detected moving " ++ nodeId ++ " under " ++ newParentId

end Violation

structure Rejection where
  index : Nat
  operation : String
  violation : Violation
deriving DecidableEq, Repr

def Rejection.message (rejection : Rejection) : String :=
  "operation " ++ toString rejection.index ++ " (" ++ rejection.operation ++ "): " ++
    rejection.violation.message

end Bookmarks
