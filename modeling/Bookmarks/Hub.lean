import Bookmarks.Json.Text

/-!
Announcements of changes. Each subscriber has a queue of its own that holds so many announcements and
no more: one that does not fit is lost for that subscriber and for no other.
-/
set_option autoImplicit false

namespace Bookmarks

open Bookmarks.Json (Value)

structure Change where
  version : String
  changedIds : List String
  generatedAt : Int
deriving DecidableEq, Repr

def Change.value (change : Change) : Value :=
  .obj [("kind", .str "event"), ("event", .str "tree_changed"), ("version", .str change.version),
    ("changedNodeIds", Value.strings change.changedIds), ("generatedAt", .int change.generatedAt)]

def Change.text (change : Change) : String := change.value.compact

def queueCapacity : Nat := 16

-- A queue, which goes on being read after it is no longer registered.
structure Subscription (β : Type) where
  id : Nat
  registered : Bool
  unread : List β
deriving Repr

structure Hub (β : Type) where
  nextId : Nat
  subscriptions : List (Subscription β)
deriving Repr

structure Delivery where
  delivered : Nat
  dropped : Nat
deriving DecidableEq, Repr

inductive Received (β : Type) where
  | event (event : β)
  | waiting
  | closed
deriving Repr

namespace Hub

variable {β : Type}

def empty : Hub β := ⟨0, []⟩

def register (hub : Hub β) : Nat × Hub β :=
  (hub.nextId, ⟨hub.nextId + 1, hub.subscriptions ++ [⟨hub.nextId, true, []⟩]⟩)

def find? (hub : Hub β) (id : Nat) : Option (Subscription β) :=
  hub.subscriptions.find? (·.id = id)

def count (hub : Hub β) : Nat := (hub.subscriptions.filter (·.registered)).length

def isRegistered (hub : Hub β) (id : Nat) : Bool := (hub.find? id).any (·.registered)

def change (hub : Hub β) (id : Nat) (f : Subscription β → Subscription β) : Hub β :=
  { hub with subscriptions := hub.subscriptions.map fun s => if s.id = id then f s else s }

-- Closes a queue; what is in it can still be read.
def unregister (hub : Hub β) (id : Nat) : Hub β :=
  hub.change id fun s => { s with registered := false }

def drop (hub : Hub β) (id : Nat) : Hub β :=
  { hub with subscriptions := hub.subscriptions.filter (·.id ≠ id) }

def hasRoom (s : Subscription β) : Bool := s.unread.length < queueCapacity

def offer (event : β) (s : Subscription β) : Subscription β :=
  if s.registered && hasRoom s then { s with unread := s.unread ++ [event] } else s

def broadcast (hub : Hub β) (event : β) : Delivery × Hub β :=
  let registered := hub.subscriptions.filter (·.registered)
  (⟨(registered.filter hasRoom).length, (registered.filter (!hasRoom ·)).length⟩,
    { hub with subscriptions := hub.subscriptions.map (offer event) })

-- An event that cannot be written is not announced.
def broadcastWritten (hub : Hub β) : Option β → Delivery × Hub β
  | some event => hub.broadcast event
  | none => (⟨0, 0⟩, hub)

def receive (hub : Hub β) (id : Nat) : Received β × Hub β :=
  match hub.find? id with
  | none => (.closed, hub)
  | some s =>
    match s.unread with
    | event :: rest => (.event event, hub.change id fun s => { s with unread := rest })
    | [] => (if s.registered then .waiting else .closed, hub)

def drain (hub : Hub β) (id : Nat) : List β × Hub β :=
  match hub.find? id with
  | none => ([], hub)
  | some s => (s.unread, hub.change id fun s => { s with unread := [] })

end Hub

end Bookmarks
