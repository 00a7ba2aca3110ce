import Bookmarks.Daemon.Basic
import Bookmarks.Operation.Codec
import Bookmarks.Server.Methods

/-!
The methods of the daemon, as a server offers them.
-/
set_option autoImplicit false

namespace Bookmarks

open Bookmarks.Json (Value Decoder Record)

structure SearchParams where
  query : String
  limit : Option Int
deriving DecidableEq, Repr

namespace SearchParams

def record : Record SearchParams :=
  SearchParams.mk <$> Record.defaulted "query" Decoder.text ""
    <*> Record.optional "limit" Decoder.integer

def decoder : Decoder SearchParams := record.decoder "struct SearchParams"

end SearchParams

def batchDecoder : Decoder (List Operation) :=
  (Record.required "ops" (Decoder.list Operation.decoder)).decoder "struct ApplyOpsParams"

namespace Daemon

variable {ω σ : Type} [WrittenOrd ω]

instance : HasHub (Daemon ω σ) where
  hub := hub
  setHub daemon hub := { daemon with hub }

def params {α : Type} (decode : Decoder α) : Option Value → Except Fault α
  | none => .error (.invalidRequest "missing params")
  | some value =>
    match Decoder.ofValue decode value with
    | .ok params => .ok params
    | .error problem =>
      .error ((Fault.invalidRequest "invalid params").withDetail "cause" (.str problem.message))

def reported {α : Type} (answer : Except Failure α) (encode : α → Value) : Except Fault Value :=
  match answer with
  | .ok a => .ok (encode a)
  | .error failure => .error failure.fault

def treeValue (tree : Tree ω) : Value := .obj [("tree", tree.value)]

def handlePing : Handler (Daemon ω σ) := fun now daemon _ => (.ok (.obj [("now", .int now)]), daemon)

def handleTree : Handler (Daemon ω σ) := fun _ daemon _ => (reported daemon.tree treeValue, daemon)

def handleBatch : Handler (Daemon ω σ) := fun now daemon given =>
  match params batchDecoder given with
  | .error fault => (.error fault, daemon)
  | .ok batch =>
    let (answer, next) := daemon.apply now batch
    (reported answer Applied.value, next)

def matchesValue (nodes : List (Node ω)) : Value := .obj [("matches", .arr (nodes.map matchValue))]

-- A search without parameters is one for everything.
def handleSearch : Handler (Daemon ω σ) := fun _ daemon given =>
  match params SearchParams.decoder (given.getD (.obj [])) with
  | .error fault => (.error fault, daemon)
  | .ok search => (reported (daemon.search search.query search.limit) matchesValue, daemon)

def handleStatus : Handler (Daemon ω σ) := fun _ daemon _ =>
  let (answer, next) := daemon.status
  (reported answer BranchStatus.value, next)

def handlePush : Handler (Daemon ω σ) := fun _ daemon _ =>
  let (answer, next) := daemon.push
  (reported answer fun _ => .obj [("status", .str "ok")], next)

def handlePull : Handler (Daemon ω σ) := fun now daemon _ =>
  let (answer, next) := daemon.pull now
  (reported answer treeValue, next)

def openEvents : Opener (Daemon ω σ) := fun _ daemon _ =>
  let (id, hub) := daemon.hub.register
  (.ok (.subscription id), { daemon with hub })

def methods : Methods (Daemon ω σ) :=
  Methods.none.add "ping" handlePing
    |>.add "get_tree" handleTree
    |>.add "apply_ops" handleBatch
    |>.add "search" handleSearch
    |>.add "vcs_status" handleStatus
    |>.add "vcs_push" handlePush
    |>.add "vcs_pull" handlePull
    |>.addStream "subscribe_events" openEvents

end Daemon

end Bookmarks
