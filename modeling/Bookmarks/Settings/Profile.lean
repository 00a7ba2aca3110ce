import Bookmarks.Json.Value
import Bookmarks.Settings.Place
import Bookmarks.Settings.Sections
import Bookmarks.Store.Files
import Bookmarks.Toml.Document

/-!
The settings of a profile. A profile is a directory; the file `config.toml` in it and the variables of
the environment whose names begin with `BOOKMARKD__` say what differs from the defaults, and the
variables win. Relative paths are seen from the directory.
-/
set_option autoImplicit false

namespace Bookmarks

open Setting (field)

structure Profile where
  directory : String
  name : String := "default"
  server : ServerSettings := {}
  store : StoreSettings := {}
  version : VersionSettings := {}
  logging : LoggingSettings := {}
deriving DecidableEq, Repr

namespace Setting

def withPoints : List Char → List Char
  | '_' :: '_' :: rest => '.' :: withPoints rest
  | c :: rest => c :: withPoints rest
  | [] => []

def ofVariable? (entry : String × String) : Option (String × Setting) :=
  let opening := "bookmarkd__".toList
  let name := (Text.lowerCase entry.1).toList
  if opening.isPrefixOf name then
    some (String.ofList (withPoints (name.drop opening.length)), .text entry.2)
  else none

end Setting

namespace Profile

def ofSetting (directory : String) (setting : Setting) : Except SettingError Profile := do
  let entries := setting.entries
  let default : Profile := { directory }
  return { default with
    name := ← field entries "profile_name" Setting.toText default.name
    server := ← field entries "server" ServerSettings.ofSetting default.server
    store := ← field entries "storage" StoreSettings.ofSetting default.store
    version := ← field entries "vcs" VersionSettings.ofSetting default.version
    logging := ← field entries "logging" LoggingSettings.ofSetting default.logging }

def read (directory document : String) (environment : List (String × String)) :
    Except SettingError Profile :=
  match Toml.document? document with
  | none => .error .notToml
  | some entries =>
    let settings := (Setting.group []).putAll (Setting.ofEntries entries)
    ofSetting directory (settings.putAll (environment.filterMap Setting.ofVariable?))

-- The profile in a directory, given the document there. Without one all is at its default, and the
-- environment does not count.
def load (directory : String) (document : Option String) (environment : List (String × String)) :
    Except SettingError Profile :=
  match document with
  | some document => read directory document environment
  | none => .ok { directory }

def fileName : String := "config.toml"

-- A relative path leads to the document of its directory. It may leave out the extension.
def isDocument (path : String) : Bool :=
  !Path.isAbsolute path &&
    (Path.parts path = ["config"] || (Path.parts path = [fileName] && Path.fileName path = fileName))

def loadFile (directory file : String) (document : Option String)
    (environment : List (String × String)) : Except SettingError Profile :=
  match document with
  | some document =>
    if isDocument file then read directory document environment else .error .noFile
  | none => .error .noFile

def resolve (profile : Profile) (path : String) : String := Path.join profile.directory path

def socketPath (profile : Profile) : String := profile.resolve profile.server.socketPath

def storePath (profile : Profile) : String := profile.resolve profile.store.path

def snapshotPath (profile : Profile) : String := profile.resolve snapshotFile

open Bookmarks.Json (Value)

def value (profile : Profile) : Value :=
  .obj [("profile_name", .str profile.name),
    ("server", .obj [("socket_path", .str profile.server.socketPath),
      ("max_frame_bytes", .nat profile.server.maxFrameBytes)]),
    ("storage", .obj [("db_path", .str profile.store.path),
      ("sqlite_cache_size", .int profile.store.cacheSize),
      ("sqlite_busy_timeout", .int profile.store.busyTimeout),
      ("journal_mode", .str profile.store.journalMode),
      ("synchronous", .str profile.store.synchronous),
      ("pool_size", .nat profile.store.poolSize)]),
    ("vcs", .obj [("enabled", .bool profile.version.enabled),
      ("remote", Value.orNull .str profile.version.remote),
      ("branch", .str profile.version.branch)]),
    ("logging", .obj [("level", .str profile.logging.level)])]

end Profile

end Bookmarks
