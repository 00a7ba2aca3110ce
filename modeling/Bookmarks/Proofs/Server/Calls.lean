import Bookmarks.Daemon.Methods
import Bookmarks.Proofs.Daemon.Reachable
import Bookmarks.Proofs.Server.Conversation
import Bookmarks.Proofs.Wire.Messages
import Bookmarks.Server.Client

/-!
Calls of a client over its connection. What comes back is what the handlers give when they are called
directly, one after another (`Direct`), whatever way the bytes take.
-/
set_option autoImplicit false

namespace Bookmarks

open Bookmarks.Json (Value Decoder Source)

variable {δ : Type}

-- A call, the sizes and times of the pieces that its frame arrives in, the time of the last piece, and what
-- others have done to the state, and how many ids they have taken, since the call before.
structure Inquiry (δ : Type) where
  method : String
  params : Option Value
  pieces : List (Int × Nat)
  time : Int
  state : δ → δ
  ids : IdSource → IdSource

-- Some bytes in pieces. The last byte comes in the last piece.
def arrivals (time : Int) : List (Int × Nat) → Bytes → List (Int × Bytes)
  | [], bytes => [(time, bytes)]
  | (now, size) :: rest, bytes =>
    (now, bytes.take (min size (bytes.length - 1))) ::
      arrivals time rest (bytes.drop (min size (bytes.length - 1)))

structure Session (δ : Type) where
  client : Client
  serving : Serving δ

def Session.opened (state : δ) (ids : IdSource) : Session δ := ⟨.new, ⟨.opened, state, ids⟩⟩

section

variable [HasHub δ]

-- The client writes its request, the server hears it, and the client takes the response.
def Session.call (methods : Methods δ) (max : Nat) (session : Session δ) (inquiry : Inquiry δ) :
    Except ClientError Response × Session δ :=
  let (request, client) := session.client.request inquiry.method inquiry.params
  match Frame.write (Client.payload request) with
  | .error e => (.error (.frame e), { session with client })
  | .ok frame =>
    let there : Serving δ :=
      ⟨session.serving.connection, inquiry.state session.serving.state, inquiry.ids session.serving.ids⟩
    let heard := there.hearAll methods max (arrivals inquiry.time inquiry.pieces frame)
    let (answer, written) := Client.receive heard.connection.written
    (answer, ⟨client, { heard with connection := { heard.connection with written } }⟩)

def Session.calls (methods : Methods δ) (max : Nat) (session : Session δ) :
    List (Inquiry δ) → List (Except ClientError Response) × Session δ
  | [] => ([], session)
  | inquiry :: rest =>
    let (answer, next) := session.call methods max inquiry
    let (answers, last) := next.calls methods max rest
    (answer :: answers, last)

end

def Inquiry.payload (inquiry : Inquiry δ) (number : Nat) : Bytes :=
  Client.payload ⟨some (.str (toString number)), inquiry.method, inquiry.params⟩

def Inquiry.trace (inquiry : Inquiry δ) (ids : IdSource) : String := ((inquiry.ids ids).nextTrace inquiry.time).1

-- What can be sent, and what can be sent back.
structure Inquiry.Sent (inquiry : Inquiry δ) (max number : Nat) (ids : IdSource) (outcome : Except Fault Value) :
    Prop where
  params : ∀ value, inquiry.params = some value → value.Legible 127
  fits : (inquiry.payload number).length ≤ max ∧ (inquiry.payload number).length ≤ Frame.lengthLimit
  legible : Legible outcome
  returns : (Text.bytes (Response.reporting (some (.str (toString number))) (inquiry.trace ids)
    outcome).value.compact).length ≤ Frame.defaultMax

-- The handlers, called one after another without a connection.
inductive Direct (methods : Methods δ) (max : Nat) : Nat → δ → IdSource → List (Inquiry δ) →
    List (Except Fault Value) → δ → Prop
  | done (number : Nat) (state : δ) (ids : IdSource) : Direct methods max number state ids [] [] state
  | call {number : Nat} {state next last : δ} {ids : IdSource} {inquiry : Inquiry δ} {rest : List (Inquiry δ)}
      {handle : Handler δ} {outcome : Except Fault Value} {outcomes : List (Except Fault Value)}
      (found : methods.singles.get? inquiry.method = some handle)
      (called : handle inquiry.time (inquiry.state state) (Request.given inquiry.params) = (outcome, next))
      (sent : inquiry.Sent max number ids outcome)
      (others : Direct methods max (number + 1) next ((inquiry.ids ids).nextTrace inquiry.time).2 rest outcomes last) :
      Direct methods max number state ids (inquiry :: rest) (outcome :: outcomes) last

-- Between two calls: the connection waits for a frame, and the client has read all that was written.
structure Serving.Waits (serving : Serving δ) : Prop where
  phase : serving.connection.phase = .serving
  heard : serving.connection.arrived = []
  unfinished : serving.connection.isFinished = false
  taken : serving.connection.written.flatten = []

theorem Session.opened_waits (state : δ) (ids : IdSource) : (Session.opened state ids).serving.Waits :=
  ⟨rfl, rfl, rfl, rfl⟩

namespace Frame

variable {max : Nat} {payload frame start more : Bytes}

theorem write_length (written : write payload = .ok frame) : frame.length = payload.length + 4 := by
  obtain ⟨_, rfl⟩ := write_eq_ok written
  rw [List.length_append, Nat.add_comm]
  rfl

-- A frame that is not whole yet.
theorem arrived_of_part (fits : payload.length ≤ max) (written : write payload = .ok (start ++ more))
    (missing : more ≠ []) : arrived max start = .unfinished := by
  have whole := arrived_of_written fits written []
  rw [List.append_nil] at whole
  cases taken : arrived max start with
  | unfinished => rfl
  | tooLarge length =>
      rw [too_large_append taken more] at whole
      cases whole
  | frame other rest =>
      obtain ⟨otherFits, frame, otherWritten, rfl⟩ := written_of_arrived taken
      rw [List.append_assoc, arrived_of_written otherFits otherWritten] at whole
      simp only [Arrived.frame.injEq, List.append_eq_nil_iff] at whole
      exact absurd whole.2.2 missing

end Frame

-- A call that arrives is answered with what its handler gives.
theorem Methods.answer_single {methods : Methods δ} {handle : Handler δ} {method : String} {params : Option Value}
    {now : Int} {state next : δ} {outcome : Except Fault Value} (found : methods.singles.get? method = some handle)
    (called : handle now state (Request.given params) = (outcome, next))
    (legible : ∀ value, params = some value → value.Legible 127) (id trace : String) :
    methods.answer now state trace (Client.payload ⟨some (.str id), method, params⟩) =
      (⟨.reporting (some (.str id)) trace outcome, Option.none⟩, next) := by
  simp only [answer, Client.payload, Request.read_written id method legible, dispatch, find?, found, called]
  cases outcome with
  | ok result => rfl
  | error fault => rfl

-- A response that nothing follows is read as it was written.
theorem Client.receive_written {stream : Frame.Stream} {number trace : String} {outcome : Except Fault Value}
    (legible : Legible outcome)
    (written : Frame.write (Text.bytes (Response.reporting (some (.str number)) trace outcome).value.compact) =
      .ok stream.flatten)
    (returns : (Text.bytes (Response.reporting (some (.str number)) trace outcome).value.compact).length ≤
      Frame.defaultMax) :
    ∃ response left, Client.receive stream = (.ok response, left) ∧ left.flatten = [] ∧
      response.id = some (.str number) ∧ response.outcome = outcome ∧ response.traceId = trace := by
  obtain ⟨response, decoded, named⟩ := Response.read_written number trace legible
  have whole := Frame.arrived_of_written returns written []
  rw [List.append_nil] at whole
  cases Frame.reads Frame.defaultMax stream with
  | frame payload left read taken =>
      simp only [whole, Frame.Arrived.frame.injEq] at taken
      obtain ⟨rfl, nothing⟩ := taken
      refine ⟨response, left, ?_, nothing.symm, named⟩
      simp only [receive, read, Client.response, decoded]
      rfl
  | finished read empty =>
      rw [empty] at whole
      cases whole
  | failed error left read none => exact absurd whole (none _ _)

section

variable [HasHub δ]

namespace Serving

variable {methods : Methods δ} {max : Nat} {serving : Serving δ} {payload bytes : Bytes}

-- The pieces of a frame are kept until the last one, and then the frame is treated.
theorem hear_all_arrivals (methods : Methods δ) (fits : payload.length ≤ max) (time : Int)
    (pieces : List (Int × Nat)) (phase : serving.connection.phase = .serving)
    (unfinished : serving.connection.isFinished = false)
    (written : Frame.write payload = .ok (serving.connection.arrived ++ bytes)) (left : bytes ≠ []) :
    serving.hearAll methods max (arrivals time pieces bytes) =
      ((serving.holding []).treat methods time payload).serveBytes methods max time [] := by
  induction pieces generalizing serving bytes with
  | nil =>
      have whole := Frame.arrived_of_written fits written []
      rw [List.append_nil] at whole
      exact (hear_serving phase _).trans (serve_bytes_frame methods time phase whole)
  | cons piece rest ih =>
      obtain ⟨now, size⟩ := piece
      have length := List.length_pos_iff.mpr left
      have behind : bytes.drop (min size (bytes.length - 1)) ≠ [] := by
        rw [Ne, List.drop_eq_nil_iff]
        omega
      rw [← List.take_append_drop (min size (bytes.length - 1)) bytes, ← List.append_assoc] at written
      have part := Frame.arrived_of_part fits written behind
      have heard : serving.hear methods max (now, bytes.take (min size (bytes.length - 1))) =
          serving.holding (serving.connection.arrived ++ bytes.take (min size (bytes.length - 1))) :=
        (hear_serving phase _).trans (serve_bytes_unfinished methods now phase unfinished part)
      show (hear methods max serving _).hearAll methods max _ = _
      rw [heard]
      exact ih phase unfinished written behind

-- The server's part in a call.
theorem hear_all_call {methods : Methods δ} {max : Nat} {serving : Serving δ} {handle : Handler δ}
    {method id : String} {params : Option Value} {outcome : Except Fault Value} {next : δ} {time : Int}
    {frame reply : Bytes} (waits : serving.Waits) (found : methods.singles.get? method = some handle)
    (called : handle time serving.state (Request.given params) = (outcome, next))
    (legible : ∀ value, params = some value → value.Legible 127)
    (fits : (Client.payload ⟨some (.str id), method, params⟩).length ≤ max)
    (asked : Frame.write (Client.payload ⟨some (.str id), method, params⟩) = .ok frame)
    (answered : Frame.write (Text.bytes (Response.reporting (some (.str id)) (serving.ids.nextTrace time).1
      outcome).value.compact) = .ok reply) (pieces : List (Int × Nat)) :
    serving.hearAll methods max (arrivals time pieces frame) =
      ⟨{ serving.connection with written := serving.connection.written ++ [reply] }, next,
        (serving.ids.nextTrace time).2⟩ := by
  obtain ⟨phase, heard, unfinished, _⟩ := waits
  have left : frame ≠ [] := List.ne_nil_of_length_pos (by rw [Frame.write_length asked]; exact Nat.succ_pos _)
  have whole : Frame.write (Client.payload ⟨some (.str id), method, params⟩) =
      .ok (serving.connection.arrived ++ frame) := by rw [heard, asked, List.nil_append]
  have kept : serving.holding [] = serving := by rw [holding, ← heard]
  have answer := Methods.answer_single found called legible id (serving.ids.nextTrace time).1
  have treated : serving.treat methods time (Client.payload ⟨some (.str id), method, params⟩) =
      ⟨{ serving.connection with written := serving.connection.written ++ [reply] }, next,
        (serving.ids.nextTrace time).2⟩ := by
    simp only [treat, answer, Connection.respond, Connection.write, answered]
  rw [hear_all_arrivals methods fits time pieces phase unfinished whole left, kept, treated]
  refine (serve_bytes_unfinished methods time ?_ ?_ rfl).trans ?_
  · exact phase
  · exact unfinished
  · simp only [holding, ← heard]

end Serving

-- One call: the client gets what the handler gives, and the connection waits for the next one.
theorem Session.call_direct {methods : Methods δ} {max : Nat} {session : Session δ} {inquiry : Inquiry δ}
    {handle : Handler δ} {outcome : Except Fault Value} {next : δ} (waits : session.serving.Waits)
    (found : methods.singles.get? inquiry.method = some handle)
    (called : handle inquiry.time (inquiry.state session.serving.state) (Request.given inquiry.params) =
      (outcome, next))
    (sent : inquiry.Sent max session.client.nextId session.serving.ids outcome) :
    ∃ response after, session.call methods max inquiry = (.ok response, after) ∧
      response.id = some (.str (toString session.client.nextId)) ∧ response.outcome = outcome ∧
      after.client.nextId = session.client.nextId + 1 ∧ after.serving.Waits ∧ after.serving.state = next ∧
      after.serving.ids = ((inquiry.ids session.serving.ids).nextTrace inquiry.time).2 := by
  obtain ⟨legible, ⟨fits, small⟩, plain, returns⟩ := sent
  obtain ⟨frame, asked⟩ : ∃ frame, Frame.write (inquiry.payload session.client.nextId) = .ok frame :=
    ⟨_, Frame.write_ok small⟩
  obtain ⟨reply, answered⟩ : ∃ reply, Frame.write (Text.bytes (Response.reporting
      (some (.str (toString session.client.nextId))) (inquiry.trace session.serving.ids) outcome).value.compact) =
      .ok reply := ⟨_, Frame.write_ok (Nat.le_trans returns (by decide))⟩
  have there : Serving.Waits (⟨session.serving.connection, inquiry.state session.serving.state,
      inquiry.ids session.serving.ids⟩ : Serving δ) :=
    ⟨waits.phase, waits.heard, waits.unfinished, waits.taken⟩
  have heard := Serving.hear_all_call there found called legible fits asked answered inquiry.pieces
  have unread : (session.serving.connection.written ++ [reply]).flatten = reply := by
    rw [List.flatten_append, waits.taken, List.flatten_singleton, List.nil_append]
  obtain ⟨response, left, received, nothing, named, told, _⟩ :=
    Client.receive_written plain (answered.trans (congrArg Except.ok unread.symm)) returns
  have exchanged : session.call methods max inquiry = (.ok response, ⟨⟨session.client.nextId + 1⟩,
      ⟨{ session.serving.connection with written := left }, next,
        ((inquiry.ids session.serving.ids).nextTrace inquiry.time).2⟩⟩) := by
    simp only [Inquiry.payload] at asked
    simp only [call, Client.request, asked, heard, received]
  exact ⟨response, _, exchanged, named, told, rfl, ⟨waits.phase, waits.heard, waits.unfinished, nothing⟩, rfl, rfl⟩

theorem Session.calls_direct {methods : Methods δ} {max number : Nat} {session : Session δ} {state last : δ}
    {ids : IdSource} {inquiries : List (Inquiry δ)} {outcomes : List (Except Fault Value)}
    (direct : Direct methods max number state ids inquiries outcomes last) (waits : session.serving.Waits)
    (numbered : session.client.nextId = number) (same : session.serving.state = state)
    (counted : session.serving.ids = ids) :
    ∃ (responses : List Response) (final : Session δ),
      session.calls methods max inquiries = (responses.map .ok, final) ∧
      final.serving.state = last ∧ responses.map Response.outcome = outcomes ∧
      responses.map Response.id = (List.range' number inquiries.length).map fun k => some (.str (toString k)) := by
  induction direct generalizing session with
  | done number state ids => exact ⟨[], session, rfl, same, rfl, rfl⟩
  | call found called sent others ih =>
      subst numbered same counted
      obtain ⟨response, after, exchanged, named, told, next, still, reached, taken⟩ :=
        session.call_direct waits found called sent
      obtain ⟨responses, final, further, ended, outcomes, ids⟩ := ih still next reached taken
      refine ⟨response :: responses, final, ?_, ended, ?_, ?_⟩
      · simp only [calls, exchanged, further, List.map_cons]
      · rw [List.map_cons, told, outcomes]
      · rw [List.map_cons, named, ids, List.length_cons, List.range'_succ, List.map_cons]

/-- Calls over a connection are calls of the handlers. Whatever the values and the outcomes are, however the
requests are cut on their way and whatever others do to the state in between, each handler is given the
parameters that were sent, null being the same as none, and the client gets back what the handler gave: a
result, null included, or a fault with its code, its message and its details, be there none, no entries in
them, or some. The answer to the k-th call has the id k. -/
theorem calls_transparent (methods : Methods δ) (max : Nat) {state last : δ} {ids : IdSource}
    {inquiries : List (Inquiry δ)} {outcomes : List (Except Fault Value)}
    (direct : Direct methods max 1 state ids inquiries outcomes last) :
    ∃ (responses : List Response) (final : Session δ),
      (Session.opened state ids).calls methods max inquiries = (responses.map .ok, final) ∧
      final.serving.state = last ∧ responses.map Response.outcome = outcomes ∧
      responses.map Response.id = (List.range' 1 inquiries.length).map fun k => some (.str (toString k)) :=
  Session.calls_direct direct (Session.opened_waits state ids) rfl rfl rfl

end

-- A call in two pieces whose parameters are null, and one without parameters.
def pinging : Inquiry (Daemon ℚ Unit) := ⟨"ping", some .null, [(4, 3)], 5, id, id⟩

def pushing : Inquiry (Daemon ℚ Unit) := ⟨"vcs_push", none, [], 6, id, id⟩

theorem pinging_sent : pinging.Sent Frame.defaultMax 1 {} (.ok (.obj [("now", .int 5)])) where
  params := by
    intro value given
    cases given
    exact ⟨trivial, trivial, by decide⟩
  fits := ⟨Text.bytes_short (by decide +kernel), Text.bytes_short (by decide +kernel)⟩
  legible := ⟨⟨(by decide : (-0x8000000000000000 : Int) ≤ 5 ∧ (5 : Int) < 0x10000000000000000), trivial⟩,
    ⟨List.pairwise_singleton _ _, trivial, trivial⟩, by decide⟩
  returns := Text.bytes_short (by decide +kernel)

theorem pushing_sent :
    pushing.Sent Frame.defaultMax 2 ⟨5, 1⟩ (.error (Failure.fault (.version .disabled))) where
  params := by
    intro value given
    cases given
  fits := ⟨Text.bytes_short (by decide +kernel), Text.bytes_short (by decide +kernel)⟩
  legible := by
    intro table given
    cases given
    exact ⟨⟨trivial, trivial⟩, ⟨List.pairwise_singleton _ _, trivial, trivial⟩, by decide⟩
  returns := Text.bytes_short (by decide +kernel)

-- The fault of a push without version control has details.
theorem calls_transparent_newcomer :
    ∃ (responses : List Response) (final : Session (Daemon ℚ Unit)),
      (Session.opened Daemon.newcomer {}).calls Daemon.methods Frame.defaultMax [pinging, pushing] =
        (responses.map .ok, final) ∧ final.serving.state = Daemon.newcomer ∧
      responses.map Response.outcome =
        [.ok (.obj [("now", .int 5)]), .error (Failure.fault (.version .disabled))] ∧
      responses.map Response.id = [some (.str "1"), some (.str "2")] := by
  have pushed : Direct Daemon.methods Frame.defaultMax 2 Daemon.newcomer ⟨5, 1⟩ [pushing] _ Daemon.newcomer :=
    .call rfl (rfl : Daemon.handlePush 6 Daemon.newcomer none = _) pushing_sent (.done _ _ _)
  exact calls_transparent Daemon.methods Frame.defaultMax
    (.call rfl (rfl : Daemon.handlePing 5 Daemon.newcomer none = _) pinging_sent pushed)

end Bookmarks
