import Bookmarks.Wire.Fault

/-!
Requests and responses. A request names a method; a response carries a result or an error, and the id
of its request if that had one.
-/
set_option autoImplicit false

namespace Bookmarks

open Bookmarks.Json (Value Decoder Record)

structure Request where
  id : Option Value
  method : String
  params : Option Value

namespace Request

def value (request : Request) : Value :=
  .obj (Value.given "id" request.id ++ [("type", .str request.method)] ++
    Value.given "params" request.params)

def record : Record Request :=
  Request.mk <$> Record.optional "id" Decoder.value
    <*> Record.required "type" Decoder.text
    <*> Record.optional "params" Decoder.value

def decoder : Decoder Request := record.decoder "struct Request"

end Request

structure Response where
  id : Option Value
  ok : Bool
  result : Option Value
  error : Option Fault
  traceId : String

namespace Response

def success (id : Option Value) (traceId : String) (result : Value) : Response :=
  ⟨id, true, some result, none, traceId⟩

def failure (id : Option Value) (traceId : String) (fault : Fault) : Response :=
  ⟨id, false, none, some fault, traceId⟩

def value (response : Response) : Value :=
  .obj (Value.given "id" response.id ++ [("ok", .bool response.ok)] ++
    Value.given "result" response.result ++ Value.optional "error" Fault.value response.error ++
    [("traceId", .str response.traceId)])

def record : Record Response :=
  Response.mk <$> Record.optional "id" Decoder.value
    <*> Record.required "ok" Decoder.flag
    <*> Record.optional "result" Decoder.value
    <*> Record.optional "error" Fault.decoder
    <*> Record.required "traceId" Decoder.text

def decoder : Decoder Response := record.decoder "struct Response"

def outcome (response : Response) : Except Fault Value :=
  if response.ok then .ok (response.result.getD .null)
  else
    match response.error with
    | some fault => .error fault
    | none => .error (.internal "error response without error object")

end Response

end Bookmarks
