import Bookmarks.Identity
import Bookmarks.Server.Methods

/-!
A connection from the server's side. Its frames are answered one after another, until one of them
opens a stream; from then on nothing that arrives is looked at, and messages are forwarded until the
stream or the connection ends.
-/
set_option autoImplicit false

namespace Bookmarks

inductive Phase where
  | serving
  | streaming (feed : Feed)
  | closed

structure Connection where
  phase : Phase
  -- The bytes that have arrived and that no frame has been made of yet.
  arrived : Bytes
  -- Nothing more will arrive.
  isFinished : Bool
  -- What has been written and not been read by the client.
  written : Frame.Stream

structure Serving (δ : Type) where
  connection : Connection
  state : δ
  ids : IdSource

namespace Connection

def opened : Connection := ⟨.serving, [], false, []⟩

def isClosed (connection : Connection) : Bool :=
  match connection.phase with
  | .closed => true
  | _ => false

def accepts (connection : Connection) : Bool := !connection.isClosed && !connection.isFinished

def close (connection : Connection) : Connection := { connection with phase := .closed, arrived := [] }

def write (connection : Connection) (payload : Bytes) : Connection :=
  match Frame.write payload with
  | .ok frame => { connection with written := connection.written ++ [frame] }
  | .error _ => connection.close

def respond (connection : Connection) (response : Response) : Connection :=
  connection.write (Text.bytes response.value.compact)

def receive (connection : Connection) (bytes : Bytes) : Connection :=
  match connection.phase with
  | .serving => { connection with arrived := connection.arrived ++ bytes }
  | _ => connection

def tooLarge (length max : Nat) : Fault :=
  (Fault.invalidRequest "frame too large").withDetail "frameBytes" (.nat length)
    |>.withDetail "maxFrameBytes" (.nat max)

end Connection

namespace Serving

variable {δ : Type} [HasHub δ]

def enter (serving : Serving δ) (feed : Feed) : Serving δ :=
  match serving.connection.phase with
  | .closed => { serving with state := feed.release serving.state }
  | _ =>
    { serving with connection := { serving.connection with phase := .streaming feed, arrived := [] } }

def treat (serving : Serving δ) (methods : Methods δ) (now : Int) (payload : Bytes) : Serving δ :=
  let (traceId, ids) := serving.ids.nextTrace now
  let (reply, state) := methods.answer now serving.state traceId payload
  let answered : Serving δ := ⟨serving.connection.respond reply.response, state, ids⟩
  match reply.feed with
  | some feed => answered.enter feed
  | none => answered

-- Refuses a frame for its length; what follows it cannot be told apart.
def refuse (serving : Serving δ) (now : Int) (length max : Nat) : Serving δ :=
  let (traceId, ids) := serving.ids.nextTrace now
  let refusal := Response.failure none traceId (Connection.tooLarge length max)
  { serving with connection := (serving.connection.respond refusal).close, ids }

-- Answers the frames in some bytes, as far as they are served; what is left stays for later.
def serveBytes (methods : Methods δ) (max : Nat) (now : Int) (bytes : Bytes)
    (serving : Serving δ) : Serving δ :=
  match serving.connection.phase with
  | .serving =>
    match _taken : Frame.arrived max bytes with
    | .frame payload rest => serveBytes methods max now rest (serving.treat methods now payload)
    | .tooLarge length => serving.refuse now length max
    | .unfinished =>
      if serving.connection.isFinished then { serving with connection := serving.connection.close }
      else { serving with connection := { serving.connection with arrived := bytes } }
  | _ => serving
termination_by bytes.length
decreasing_by exact Frame.arrived_frame_length _taken

def serve (methods : Methods δ) (max : Nat) (now : Int) (serving : Serving δ) : Serving δ :=
  serveBytes methods max now serving.connection.arrived
    { serving with connection := { serving.connection with arrived := [] } }

def close (serving : Serving δ) : Serving δ :=
  match serving.connection.phase with
  | .streaming feed =>
    { serving with connection := serving.connection.close, state := feed.release serving.state }
  | _ => { serving with connection := serving.connection.close }

def forward (serving : Serving δ) : Serving δ :=
  match serving.connection.phase with
  | .streaming feed =>
    let (messages, left, state) := feed.take serving.state
    let connection := messages.foldl Connection.write serving.connection
    match left with
    | some feed => enter { serving with connection, state } feed
    | none => { serving with connection := connection.close, state }
  | _ => serving

-- The client will send no more. A stream notices that and ends; before a stream, what has arrived
-- is still answered.
def finish (serving : Serving δ) : Serving δ :=
  match serving.connection.phase with
  | .streaming _ => serving.close
  | _ => { serving with connection := { serving.connection with isFinished := true } }

end Serving

end Bookmarks
