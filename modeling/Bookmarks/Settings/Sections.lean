import Bookmarks.Settings.Conversion
import Bookmarks.Wire.Frame

/-!
The sections of a profile's settings. What a section does not name is at its default.
-/
set_option autoImplicit false

namespace Bookmarks

open Setting (field section? toText toBoolean toOptionalText toSigned toUnsigned)

structure ServerSettings where
  socketPath : String := "ipc.sock"
  maxFrameBytes : Nat := Frame.defaultMax
deriving DecidableEq, Repr

def ServerSettings.ofSetting (setting : Setting) : Except SettingError ServerSettings := do
  let entries ← section? ["socket_path", "max_frame_bytes"] setting
  let default : ServerSettings := {}
  return {
    socketPath := ← field entries "socket_path" toText default.socketPath
    maxFrameBytes := ← field entries "max_frame_bytes" toUnsigned default.maxFrameBytes }

structure StoreSettings where
  path : String := "state.db"
  cacheSize : Int := 10000
  busyTimeout : Int := 5000
  -- The database is one file, as it is committed as one.
  journalMode : String := "DELETE"
  synchronous : String := "FULL"
  poolSize : Nat := 5
deriving DecidableEq, Repr

def StoreSettings.ofSetting (setting : Setting) : Except SettingError StoreSettings := do
  let entries ← section? ["db_path", "sqlite_cache_size", "sqlite_busy_timeout", "journal_mode",
    "synchronous", "pool_size"] setting
  let default : StoreSettings := {}
  return {
    path := ← field entries "db_path" toText default.path
    cacheSize := ← field entries "sqlite_cache_size" toSigned default.cacheSize
    busyTimeout := ← field entries "sqlite_busy_timeout" toSigned default.busyTimeout
    journalMode := ← field entries "journal_mode" toText default.journalMode
    synchronous := ← field entries "synchronous" toText default.synchronous
    poolSize := ← field entries "pool_size" toUnsigned default.poolSize }

structure VersionSettings where
  enabled : Bool := false
  remote : Option String := none
  branch : String := "main"
deriving DecidableEq, Repr

def VersionSettings.ofSetting (setting : Setting) : Except SettingError VersionSettings := do
  let entries ← section? ["enabled", "remote", "branch"] setting
  let default : VersionSettings := {}
  return {
    enabled := ← field entries "enabled" toBoolean default.enabled
    remote := ← field entries "remote" toOptionalText default.remote
    branch := ← field entries "branch" toText default.branch }

structure LoggingSettings where
  level : String := "info"
deriving DecidableEq, Repr

def LoggingSettings.ofSetting (setting : Setting) : Except SettingError LoggingSettings := do
  let entries ← section? ["level"] setting
  let default : LoggingSettings := {}
  return { level := ← field entries "level" toText default.level }

end Bookmarks
