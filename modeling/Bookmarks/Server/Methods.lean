import Bookmarks.Hub
import Bookmarks.Text.Utf8
import Bookmarks.Wire.Frame
import Bookmarks.Wire.Message

/-!
The methods that a server offers over something of type `δ`, and what a frame is answered with. A
method is answered once, or it opens a stream of messages.
-/
set_option autoImplicit false

namespace Bookmarks

open Bookmarks.Json (Value Decoder Problem Source)

class HasHub (δ : Type) where
  hub : δ → Hub Change
  setHub : δ → Hub Change → δ

inductive Feed where
  | messages (rest : List Bytes)
  | subscription (id : Nat)

namespace Feed

variable {δ : Type} [HasHub δ]

def take (state : δ) : Feed → List Bytes × Option Feed × δ
  | .messages rest => (rest, none, state)
  | .subscription id =>
    let (changes, hub) := (HasHub.hub state).drain id
    let messages := changes.map fun change => Text.bytes change.text
    if hub.isRegistered id then (messages, some (.subscription id), HasHub.setHub state hub)
    else (messages, none, HasHub.setHub state (hub.drop id))

def release (state : δ) : Feed → δ
  | .messages _ => state
  | .subscription id => HasHub.setHub state ((HasHub.hub state).drop id)

end Feed

abbrev Handler (δ : Type) := Int → δ → Option Value → Except Fault Value × δ

abbrev Opener (δ : Type) := Int → δ → Option Value → Except Fault Feed × δ

inductive Method (δ : Type) where
  | single (handle : Handler δ)
  | streaming (opener : Opener δ)

structure Methods (δ : Type) where
  singles : Keyed (Handler δ)
  streams : Keyed (Opener δ)

structure Reply where
  response : Response
  feed : Option Feed

namespace Methods

variable {δ : Type}

def none : Methods δ := ⟨∅, ∅⟩

def add (methods : Methods δ) (name : String) (handle : Handler δ) : Methods δ :=
  { methods with singles := methods.singles.insert name handle }

def addStream (methods : Methods δ) (name : String) (opener : Opener δ) : Methods δ :=
  { methods with streams := methods.streams.insert name opener }

-- The method of a name. If there are two, it is the one that is answered once.
def find? (methods : Methods δ) (name : String) : Option (Method δ) :=
  match methods.singles.get? name with
  | some handle => some (.single handle)
  | .none => (methods.streams.get? name).map .streaming

def dispatch (methods : Methods δ) (now : Int) (state : δ) (traceId : String) (request : Request) :
    Reply × δ :=
  match methods.find? request.method with
  | some (.single handle) =>
    match handle now state request.params with
    | (.ok result, next) => (⟨.success request.id traceId result, .none⟩, next)
    | (.error fault, next) => (⟨.failure request.id traceId fault, .none⟩, next)
  | some (.streaming opener) =>
    match opener now state request.params with
    | (.ok feed, next) =>
      (⟨.success request.id traceId (.obj [("subscribed", .bool true)]), some feed⟩, next)
    | (.error fault, next) => (⟨.failure request.id traceId fault, .none⟩, next)
  | .none =>
    let fault := (Fault.invalidRequest "unknown method").withDetail "method" (.str request.method)
    (⟨.failure request.id traceId fault, .none⟩, state)

def badRequest (problem : Problem) : Fault :=
  let message := match problem with
    | .malformed => "invalid json"
    | .shape _ => "invalid request"
  (Fault.invalidRequest message).withDetail "cause" (.str problem.message)

def idIn (payload : Bytes) : Option Value :=
  match Decoder.ofSource Decoder.value (Source.ofBytes payload) with
  | .ok value => (value.member? "id").filter (!·.isNull)
  | .error _ => .none

def answer (methods : Methods δ) (now : Int) (state : δ) (traceId : String) (payload : Bytes) :
    Reply × δ :=
  match Decoder.ofSource Request.decoder (Source.ofBytes payload) with
  | .ok request => methods.dispatch now state traceId request
  | .error problem => (⟨.failure (idIn payload) traceId (badRequest problem), .none⟩, state)

end Methods

end Bookmarks
