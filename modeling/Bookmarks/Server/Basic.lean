import Bookmarks.Server.Connection

/-!
A server at a socket file, with its connections. `settle` is what it does as long as nothing comes from
outside: it answers all frames that have arrived and forwards all messages.
-/
set_option autoImplicit false

namespace Bookmarks

inductive SocketFile where
  | socket
  | plain
  | directory
deriving DecidableEq, Repr

-- The permissions of the file, in octal digits. Nobody but the owner may use the socket.
def SocketFile.mode : SocketFile → String
  | .socket => "600"
  | .plain => "644"
  | .directory => "755"

inductive StartError where
  | alreadyStarted
  | isDirectory
deriving DecidableEq, Repr

structure Server (δ : Type) where
  methods : Methods δ
  maxFrame : Nat
  state : δ
  ids : IdSource
  isRunning : Bool
  file : Option SocketFile
  connections : Keyed Connection

namespace Server

variable {δ : Type} [HasHub δ]

def idle (methods : Methods δ) (maxFrame : Nat) (state : δ) : Server δ :=
  ⟨methods, maxFrame, state, {}, false, none, ∅⟩

-- Starts to listen, in place of a file that an earlier run left behind.
def start (server : Server δ) : Except StartError (Server δ) :=
  if server.isRunning then .error .alreadyStarted
  else if server.file = some .directory then .error .isDirectory
  else .ok { server with isRunning := true, file := some .socket }

def atConnection (server : Server δ) (name : String) (act : Serving δ → Serving δ) : Server δ :=
  match server.connections.get? name with
  | none => server
  | some connection =>
    let next := act ⟨connection, server.state, server.ids⟩
    { server with
      connections := server.connections.insert name next.connection
      state := next.state
      ids := next.ids }

def atConnections (server : Server δ) (act : Serving δ → Serving δ) : Server δ :=
  server.connections.keys.foldl (fun server name => server.atConnection name act) server

def stop (server : Server δ) : Server δ :=
  let closed := server.atConnections Serving.close
  let left := if server.isRunning && server.file != some .directory then none else server.file
  { closed with isRunning := false, file := left }

def serve (server : Server δ) (now : Int) : Server δ :=
  server.atConnections (Serving.serve server.methods server.maxFrame now)

def forward (server : Server δ) : Server δ := server.atConnections Serving.forward

def settle (server : Server δ) (now : Int) : Server δ := (server.serve now).forward

def connect? (server : Server δ) (name : String) : Option (Server δ) :=
  if server.isRunning && server.file = some .socket then
    some { server with connections := server.connections.insert name .opened }
  else none

def disconnect (server : Server δ) (name : String) : Server δ :=
  let closed := server.atConnection name Serving.close
  { closed with connections := closed.connections.erase name }

def receive? (server : Server δ) (name : String) (bytes : Bytes) : Option (Server δ) :=
  match server.connections.get? name with
  | none => none
  | some connection =>
    if connection.accepts then
      some { server with connections := server.connections.insert name (connection.receive bytes) }
    else none

def finish? (server : Server δ) (name : String) : Option (Server δ) :=
  match server.connections.get? name with
  | none => none
  | some connection =>
    if connection.accepts then some (server.atConnection name Serving.finish) else none

def read? (server : Server δ) (name : String) : Option (Bytes × Server δ) :=
  match server.connections.get? name with
  | none => none
  | some connection =>
    match Frame.read Frame.defaultMax connection.written with
    | .frame payload written =>
      some (payload, { server with
        connections := server.connections.insert name { connection with written } })
    | _ => none

end Server

end Bookmarks
