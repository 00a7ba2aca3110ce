import Std.Time.DateTime.Timestamp
import Bookmarks.Daemon.Methods
import Bookmarks.Server.Connection
import Bookmarks.Settings.Profile

/-!
The command line. Each argument is a line of a settings document; the daemon that they describe serves
one connection, whose frames come on standard input and go to standard output. Its store lives as long
as the connection.
-/
set_option autoImplicit false

namespace Bookmarks

def SettingError.message : SettingError → String
  | .noFile => "no such file"
  | .notToml => "the arguments are no lines of a settings document"
  | .wrongKind => "a setting has a value of the wrong kind"
  | .wrongShape => "a section of the settings is no table"

def Profile.start (profile : Profile) (now : Int) : Except StoreError (Daemon Float Unit) := do
  let store ← Store.openAt ∅ profile.store.path {} now
  return Daemon.start store profile.version.branch (VersionControl.disabled (Content Float)) ()

def currentTime : IO Int := do
  return (← Std.Time.Timestamp.now).toMillisecondsSinceUnixEpoch.toInt

partial def serveConnection (max : Nat) (input output : IO.FS.Stream)
    (serving : Serving (Daemon Float Unit)) : IO Unit := do
  let chunk ← input.read 65536
  let given := if chunk.isEmpty then serving.finish
    else { serving with connection := serving.connection.receive chunk.toList }
  let served := (given.serve Daemon.methods max (← currentTime)).forward
  for frame in served.connection.written do
    output.write ⟨frame.toArray⟩
  output.flush
  unless chunk.isEmpty || served.connection.isClosed do
    serveConnection max input output
      { served with connection := { served.connection with written := [] } }

end Bookmarks

open Bookmarks

def main (arguments : List String) : IO UInt32 := do
  match Profile.read "." ("\n".intercalate arguments) [] with
  | .error e =>
    IO.eprintln e.message
    return 2
  | .ok profile =>
    match profile.start (← currentTime) with
    | .error e =>
      IO.eprintln e.message
      return 1
    | .ok daemon =>
      let input ← IO.getStdin
      let output ← IO.getStdout
      serveConnection profile.server.maxFrameBytes input output ⟨.opened, daemon, {}⟩
      return 0
