import Bookmarks.Json.Decoder

/-!
Errors as they are reported to a client: a code, a message, and details under names.
-/
set_option autoImplicit false

namespace Bookmarks

open Bookmarks.Json (Value Decoder Record)

inductive FaultCode where
  | invalidRequest
  | validationFailed
  | storageError
  | vcsError
  | internal
deriving DecidableEq, Repr

def FaultCode.name : FaultCode → String
  | .invalidRequest => "INVALID_REQUEST"
  | .validationFailed => "VALIDATION_FAILED"
  | .storageError => "STORAGE_ERROR"
  | .vcsError => "VCS_ERROR"
  | .internal => "INTERNAL"

def FaultCode.all : List FaultCode :=
  [.invalidRequest, .validationFailed, .storageError, .vcsError, .internal]

def FaultCode.decoder : Decoder FaultCode :=
  Decoder.choice (FaultCode.all.map fun code => (code.name, code))

structure Fault where
  code : FaultCode
  message : String
  details : Option (Keyed Value) := none

namespace Fault

def withDetail (fault : Fault) (name : String) (detail : Value) : Fault :=
  { fault with details := some ((fault.details.getD ∅).insert name detail) }

def detail? (fault : Fault) (name : String) : Option Value :=
  fault.details.bind fun details => details.get? name

def invalidRequest (message : String) : Fault := ⟨.invalidRequest, message, none⟩

def internal (message : String) : Fault := ⟨.internal, message, none⟩

def text (fault : Fault) : String := fault.code.name ++ ": " ++ fault.message

def value (fault : Fault) : Value :=
  .obj ([("code", .str fault.code.name), ("message", .str fault.message)] ++
    Value.optional "details" (Value.ofKeyed id) fault.details)

def record : Record Fault :=
  Fault.mk <$> Record.required "code" FaultCode.decoder
    <*> Record.required "message" Decoder.text
    <*> Record.optional "details" (Decoder.keyed Decoder.value)

def decoder : Decoder Fault := record.decoder "struct RpcError"

end Fault

end Bookmarks
