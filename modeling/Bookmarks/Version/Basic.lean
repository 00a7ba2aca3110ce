import Bookmarks.Json.Decoder

/-!
Version control as the daemon sees it: the outcome of a commit, the position against the remote, and
what can go wrong.
-/
set_option autoImplicit false

namespace Bookmarks

open Bookmarks.Json (Value Decoder Record)

-- The outcome of an attempt to commit. A change that is pending is stored, but not committed.
structure CommitStatus where
  committed : Bool
  pending : Bool
  hash : Option String
deriving DecidableEq, Repr

namespace CommitStatus

def deferred : CommitStatus := ⟨false, true, none⟩

def value (status : CommitStatus) : Value :=
  .obj ([("committed", .bool status.committed), ("pending", .bool status.pending)] ++
    Value.optional "hash" .str status.hash)

def record : Record CommitStatus :=
  CommitStatus.mk <$> Record.required "committed" Decoder.flag
    <*> Record.required "pending" Decoder.flag
    <*> Record.optional "hash" Decoder.text

def decoder : Decoder CommitStatus := record.decoder "struct CommitStatus"

end CommitStatus

-- Where a branch stands against its remote, as of the last fetch.
structure BranchStatus where
  localHash : Option String := none
  remoteHash : Option String := none
  ahead : Nat := 0
  behind : Nat := 0
deriving DecidableEq, Repr

def BranchStatus.value (status : BranchStatus) : Value :=
  .obj [("localHash", Value.orNull .str status.localHash),
    ("remoteHash", Value.orNull .str status.remoteHash), ("ahead", .nat status.ahead),
    ("behind", .nat status.behind)]

inductive VersionError where
  | remoteNotConfigured
  | nonFastForward
  | localCommitsPresent (ahead : Nat)
  | uncommittedChanges
  | disabled
  | command (command output : String)
  | io (message : String)
deriving DecidableEq, Repr

namespace VersionError

def reason : VersionError → String
  | .remoteNotConfigured => "remote_not_configured"
  | .nonFastForward => "non_fast_forward"
  | .localCommitsPresent _ => "local_commits_present"
  | .uncommittedChanges => "uncommitted_changes"
  | .disabled => "disabled"
  | .command _ _ => "command_failed"
  | .io _ => "command_failed"

def message : VersionError → String
  | .remoteNotConfigured => "no remote configured"
  | .nonFastForward => "remote has diverged; fast-forward not possible"
  | .localCommitsPresent ahead => toString ahead ++ " local commits not pushed"
  | .uncommittedChanges => "working tree has changes that are not committed"
  | .disabled => "version control is disabled"
  | .command line output => "`git " ++ line ++ "` failed: " ++ output
  | .io message => "io error: " ++ message

end VersionError

end Bookmarks
