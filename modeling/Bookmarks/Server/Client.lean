import Bookmarks.Json.Text
import Bookmarks.Text.Utf8
import Bookmarks.Wire.Frame
import Bookmarks.Wire.Message

/-!
The client of a server. It numbers its requests, and takes the next frame for the answer.
-/
set_option autoImplicit false

namespace Bookmarks

open Bookmarks.Json (Value Decoder Problem Source)

structure Client where
  nextId : Nat
deriving DecidableEq, Repr

inductive ClientError where
  | frame (error : FrameError)
  | json (problem : Problem)
  -- The server has closed the connection.
  | closed
deriving Repr

namespace Client

def new : Client := ⟨1⟩

def request (client : Client) (method : String) (params : Option Value) : Request × Client :=
  (⟨some (.str (toString client.nextId)), method, params⟩, ⟨client.nextId + 1⟩)

def payload (request : Request) : Bytes := Text.bytes request.value.compact

def response (payload : Bytes) : Except Problem Response :=
  Decoder.ofSource Response.decoder (Source.ofBytes payload)

-- Takes the next frame for a response.
def receive (stream : Frame.Stream) : Except ClientError Response × Frame.Stream :=
  match Frame.read Frame.defaultMax stream with
  | .frame frame rest => ((response frame).mapError .json, rest)
  | .finished => (.error .closed, [])
  | .failed error rest => (.error (.frame error), rest)

end Client

end Bookmarks
