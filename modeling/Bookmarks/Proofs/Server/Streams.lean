import Bookmarks.Proofs.Daemon.Handlers
import Bookmarks.Proofs.Hub.Independence
import Bookmarks.Proofs.Server.Conversation
import Mathlib.Logic.Function.Basic

/-!
Connections to a daemon side by side. What a connection takes in one go, a frame or an event, and what it
writes in one go are its steps, and between two of them any other connection can take one. A connection that
nothing comes between does what `Serving` does (`serve_alone`, `forward_alone`).
-/
set_option autoImplicit false

namespace Bookmarks

-- What a connection is about to write. A refusal is the last that it writes.
inductive Pending where
  | reply (answer : Reply)
  | refusal (response : Response)
  | message (payload : Bytes)

def Pending.payload : Pending → Bytes
  | .reply answer => Text.bytes answer.response.value.compact
  | .refusal response => Text.bytes response.value.compact
  | .message payload => payload

namespace Serving

variable {δ : Type} [HasHub δ]

def wrote (serving : Serving δ) (pending : Pending) (frame : Bytes) : Serving δ :=
  let connection := { serving.connection with written := serving.connection.written ++ [frame] }
  match pending with
  | .reply ⟨_, some feed⟩ => enter { serving with connection } feed
  | .reply ⟨_, none⟩ => { serving with connection }
  | .refusal _ => { serving with connection := connection.close }
  | .message _ => { serving with connection }

-- The client is gone before it has all of it.
def broke (serving : Serving δ) (pending : Pending) : Serving δ :=
  match pending with
  | .reply ⟨_, some feed⟩ =>
    { serving with connection := serving.connection.close, state := feed.release serving.state }
  | _ => serving.close

variable {serving : Serving δ}

-- A connection that serves no more throws away what is left.
def keeping (serving : Serving δ) (bytes : Bytes) : Serving δ :=
  match serving.connection.phase with
  | .serving => serving.holding bytes
  | _ => serving

theorem treat_holding (phase : serving.connection.phase = .serving) (methods : Methods δ) (now : Int)
    (payload rest : Bytes) :
    (serving.holding rest).treat methods now payload = (serving.treat methods now payload).keeping rest := by
  simp only [treat, holding, Connection.respond, Connection.write]
  cases methods.answer now serving.state (serving.ids.nextTrace now).1 payload with
  | mk reply state =>
      obtain ⟨response, feed⟩ := reply
      cases Frame.write (Text.bytes response.value.compact) with
      | ok frame => cases feed <;> simp [keeping, holding, enter, phase]
      | error error => cases feed <;> simp [keeping, enter, Connection.close]

omit [HasHub δ] in
theorem refuse_holding (serving : Serving δ) (bytes : Bytes) (now : Int) (length max : Nat) :
    (serving.holding bytes).refuse now length max = serving.refuse now length max := by
  simp only [refuse, holding, Connection.respond, Connection.write]
  cases Frame.write (Text.bytes (Response.failure none (serving.ids.nextTrace now).1
    (Connection.tooLarge length max)).value.compact) with
  | ok frame => rfl
  | error error => rfl

-- Answering a frame is to write what it is answered with.
theorem treat_wrote (phase : serving.connection.phase = .serving) {methods : Methods δ} {now : Int} {payload : Bytes}
    {reply : Reply} {state : δ}
    (answered : methods.answer now serving.state (serving.ids.nextTrace now).1 payload = (reply, state)) :
    serving.treat methods now payload =
      match Frame.write (Pending.reply reply).payload with
      | .ok frame => wrote ⟨serving.connection, state, (serving.ids.nextTrace now).2⟩ (.reply reply) frame
      | .error _ => broke ⟨serving.connection, state, (serving.ids.nextTrace now).2⟩ (.reply reply) := by
  obtain ⟨response, feed⟩ := reply
  simp only [treat, answered, Pending.payload, Connection.respond, Connection.write]
  cases Frame.write (Text.bytes response.value.compact) with
  | ok frame => cases feed <;> rfl
  | error error =>
      cases feed with
      | none => simp only [broke, close, phase]
      | some feed => simp only [broke, enter, Connection.close]

end Serving

-- A connection and what it is about to write. The fields behind `torn` only record what has happened.
structure Line where
  connection : Connection
  pending : Option Pending
  -- The bytes that got out of a frame that was not written to its end.
  torn : Bytes
  received : Bytes
  -- The frames that were decoded.
  treated : List Bytes
  -- The subscription that was opened.
  stream : Option Nat
  -- How many frames were written when it was acknowledged, and what had become of the hub by then.
  acknowledged : Option (Nat × Hub.History Change)
  -- The stream has ended because the subscription was closed.
  exhausted : Bool

namespace Line

def absent : Line := ⟨Connection.opened.close, none, [], [], [], none, none, false⟩

def opened : Line := ⟨.opened, none, [], [], [], none, none, false⟩

def dropped (line : Line) : Hub.History Change :=
  match line.stream with
  | some id => [.dropped id]
  | none => []

-- What is recorded when something has been written.
def told (line : Line) (heard : Hub.History Change) : Pending → Option (Nat × Hub.History Change)
  | .reply ⟨_, some _⟩ => some (line.connection.written.length + 1, heard)
  | _ => line.acknowledged

-- The stream has been opened and has not ended.
def isOpen (line : Line) : Bool := line.stream.isSome && !line.connection.isClosed

end Line

def Feed.id? : Feed → Option Nat
  | .messages _ => none
  | .subscription id => some id

-- What becomes of a hub when changes are broadcast one after another.
def Hub.told (hub : Hub Change) : List Change → Hub.History Change
  | [] => []
  | change :: changes =>
    (hub.broadcast change).2.told changes ++ [.broadcast (some change) (hub.broadcast change).1]

structure Streams (ω σ : Type) where
  daemon : Daemon ω σ
  ids : IdSource
  -- So many of the lines are connections.
  count : Nat
  lines : Nat → Line
  heard : Hub.History Change

namespace Streams

variable {ω σ : Type} [WrittenOrd ω]

-- What others do may happen at any time, and so may the end of a client or of the server.
inductive Move (ω σ : Type) where
  | connect
  | send (line : Nat) (bytes : Bytes)
  | take (line : Nat) (now : Int)
  -- Some bytes of what is about to be written get out.
  | write (line size : Nat)
  | event (line : Nat)
  | leave (line : Nat)
  | unregister (id : Nat)
  | announce (event : Option Change)
  | change (f : Daemon ω σ → Daemon ω σ)

def start (daemon : Daemon ω σ) (ids : IdSource) : Streams ω σ := ⟨daemon, ids, 0, fun _ => .absent, []⟩

def serving (streams : Streams ω σ) (n : Nat) : Serving (Daemon ω σ) :=
  ⟨(streams.lines n).connection, streams.daemon, streams.ids⟩

def put (streams : Streams ω σ) (n : Nat) (serving : Serving (Daemon ω σ)) (line : Line)
    (entries : Hub.History Change) : Streams ω σ :=
  { streams with
    daemon := serving.state, ids := serving.ids, heard := entries ++ streams.heard
    lines := Function.update streams.lines n { line with connection := serving.connection } }

def connect (streams : Streams ω σ) : Streams ω σ :=
  { streams with lines := Function.update streams.lines streams.count .opened, count := streams.count + 1 }

-- A stream throws away what arrives.
def send (streams : Streams ω σ) (n : Nat) (bytes : Bytes) : Streams ω σ :=
  let line := streams.lines n
  if line.connection.accepts then
    streams.put n { streams.serving n with connection := line.connection.receive bytes }
      { line with received := line.received ++ bytes } []
  else streams

-- The changes that a call announces, or the subscription that it opens.
def entries (streams : Streams ω σ) (call : Daemon ω σ → Reply × Daemon ω σ) : Hub.History Change :=
  match (call streams.daemon).1.feed.bind Feed.id? with
  | some id => [.registered id]
  | none => streams.daemon.hub.told (Daemon.announced (fun daemon => (call daemon).2) streams.daemon)

def call (streams : Streams ω σ) (now : Int) (payload : Bytes) (daemon : Daemon ω σ) : Reply × Daemon ω σ :=
  Daemon.methods.answer now daemon (streams.ids.nextTrace now).1 payload

-- What a connection that is not writing makes of the frame at the head of what has arrived.
def treat (streams : Streams ω σ) (n : Nat) (now : Int) (payload rest : Bytes) : Streams ω σ :=
  let line := streams.lines n
  let (reply, daemon) := streams.call now payload streams.daemon
  streams.put n ⟨{ line.connection with arrived := rest }, daemon, (streams.ids.nextTrace now).2⟩
    { line with
      pending := some (.reply reply), treated := line.treated ++ [payload], stream := reply.feed.bind Feed.id? }
    (streams.entries (streams.call now payload))

def refuse (streams : Streams ω σ) (n : Nat) (now : Int) (length max : Nat) : Streams ω σ :=
  let refusal := Response.failure none (streams.ids.nextTrace now).1 (Connection.tooLarge length max)
  streams.put n { streams.serving n with ids := (streams.ids.nextTrace now).2 }
    { streams.lines n with pending := some (.refusal refusal) } []

def take (streams : Streams ω σ) (max n : Nat) (now : Int) : Streams ω σ :=
  let line := streams.lines n
  match line.pending, line.connection.phase, Frame.arrived max line.connection.arrived with
  | none, .serving, .frame payload rest => streams.treat n now payload rest
  | none, .serving, .tooLarge length => streams.refuse n now length max
  | _, _, _ => streams

def fail (streams : Streams ω σ) (n : Nat) (pending : Pending) (torn : Bytes) : Streams ω σ :=
  let line := streams.lines n
  streams.put n ((streams.serving n).broke pending) { line with pending := none, torn } line.dropped

def write (streams : Streams ω σ) (n size : Nat) : Streams ω σ :=
  let line := streams.lines n
  match line.pending with
  | none => streams
  | some pending =>
    match Frame.write pending.payload with
    | .error _ => streams.fail n pending []
    | .ok frame =>
      if frame.length ≤ size then
        streams.put n ((streams.serving n).wrote pending frame)
          { line with pending := none, acknowledged := line.told streams.heard pending } []
      else streams.fail n pending (frame.take size)

-- All streams of a daemon are subscriptions.
def event (streams : Streams ω σ) (n : Nat) : Streams ω σ :=
  let line := streams.lines n
  match line.pending, line.connection.phase with
  | none, .streaming (.subscription id) =>
    match streams.daemon.hub.receive id with
    | (.event change, hub) =>
      streams.put n { streams.serving n with state := { streams.daemon with hub } }
        { line with pending := some (.message (Text.bytes change.text)) } [.received id (.event change)]
    | (.waiting, _) => streams
    | (.closed, _) => streams.put n (streams.serving n).close { line with exhausted := true } line.dropped
  | _, _ => streams

-- A connection that is not writing comes to its end: the client is gone, or the server is stopped.
def leave (streams : Streams ω σ) (n : Nat) : Streams ω σ :=
  let line := streams.lines n
  match line.pending, line.connection.phase with
  | some _, _ => streams
  | none, .closed => streams
  | none, _ => streams.put n (streams.serving n).close line line.dropped

def step (max : Nat) (streams : Streams ω σ) : Move ω σ → Streams ω σ
  | .connect => streams.connect
  | .send n bytes => streams.send n bytes
  | .take n now => streams.take max n now
  | .write n size => streams.write n size
  | .event n => streams.event n
  | .leave n => streams.leave n
  | .unregister id =>
    { streams with
      daemon := { streams.daemon with hub := streams.daemon.hub.unregister id }
      heard := .unregistered id :: streams.heard }
  | .announce event =>
    let (report, hub) := streams.daemon.hub.broadcastWritten event
    { streams with daemon := { streams.daemon with hub }, heard := .broadcast event report :: streams.heard }
  | .change f => { streams with daemon := { f streams.daemon with hub := streams.daemon.hub } }

def run (max : Nat) (streams : Streams ω σ) (moves : List (Move ω σ)) : Streams ω σ := moves.foldl (step max) streams

variable {max n : Nat} {now : Int} {streams : Streams ω σ} {id : Nat}

omit [WrittenOrd ω] in
@[simp] theorem put_serving (streams : Streams ω σ) (n : Nat) (serving : Serving (Daemon ω σ)) (line : Line)
    (entries : Hub.History Change) : (streams.put n serving line entries).serving n = serving := by
  simp [put, Streams.serving]

omit [WrittenOrd ω] in
@[simp] theorem put_line (streams : Streams ω σ) (n : Nat) (serving : Serving (Daemon ω σ)) (line : Line)
    (entries : Hub.History Change) :
    (streams.put n serving line entries).lines n = { line with connection := serving.connection } := by
  simp [put]

-- As many bytes as any frame has.
def frameSize : Nat := Frame.lengthLimit + 4

theorem write_size {payload frame : Bytes} (written : Frame.write payload = .ok frame) : frame.length ≤ frameSize := by
  obtain ⟨small, rfl⟩ := Frame.write_eq_ok written
  rw [List.length_append, Nat.add_comm]
  exact Nat.add_le_add_right small 4

omit [WrittenOrd ω] in
-- All that a connection is about to write gets out, if a frame can hold it.
theorem write_all {pending : Pending} (here : (streams.lines n).pending = some pending) :
    (streams.write n frameSize).serving n =
        (match Frame.write pending.payload with
        | .ok frame => (streams.serving n).wrote pending frame
        | .error _ => (streams.serving n).broke pending) ∧
      ((streams.write n frameSize).lines n).pending = none := by
  cases written : Frame.write pending.payload with
  | ok frame => simp only [write, here, written, if_pos (write_size written), put_serving, put_line, and_self]
  | error error => simp only [write, here, written, fail, put_serving, put_line, and_self]

-- A frame is taken and answered.
theorem treat_alone (phase : (streams.lines n).connection.phase = .serving) (now : Int) (payload rest : Bytes) :
    ((streams.treat n now payload rest).write n frameSize).serving n =
        ((streams.serving n).holding rest).treat Daemon.methods now payload ∧
      (((streams.treat n now payload rest).write n frameSize).lines n).pending = none := by
  have next : ((streams.treat n now payload rest).lines n).pending =
      some (.reply (streams.call now payload streams.daemon).1) := by
    simp only [treat, put_line]
  obtain ⟨written, done⟩ := write_all next
  refine ⟨?_, done⟩
  rw [written, Serving.treat_wrote phase rfl, treat, put_serving]
  rfl

omit [WrittenOrd ω] in
-- A frame that is too large is refused.
theorem refuse_alone (phase : (streams.lines n).connection.phase = .serving) (now : Int) (length max : Nat) :
    ((streams.refuse n now length max).write n frameSize).serving n = (streams.serving n).refuse now length max ∧
      (((streams.refuse n now length max).write n frameSize).lines n).pending = none := by
  have next : ((streams.refuse n now length max).lines n).pending = some (.refusal
      (.failure none (streams.ids.nextTrace now).1 (Connection.tooLarge length max))) := by
    simp only [refuse, put_line]
  obtain ⟨written, done⟩ := write_all next
  refine ⟨?_, done⟩
  rw [written, refuse, put_serving]
  simp only [Serving.refuse, Connection.respond, Connection.write, Pending.payload, Streams.serving]
  cases Frame.write (Text.bytes (Response.failure none (streams.ids.nextTrace now).1
    (Connection.tooLarge length max)).value.compact) with
  | ok frame => rfl
  | error error => simp only [Serving.broke, Serving.close, phase, Connection.close]

-- So many frames are taken and answered.
def serves (n : Nat) (now : Int) (count : Nat) : List (Move ω σ) :=
  (List.replicate count [.take n now, .write n frameSize]).flatten

theorem run_serves (max n : Nat) (now : Int) (count : Nat) (streams : Streams ω σ) :
    streams.run max (serves n now (count + 1)) =
      ((streams.take max n now).write n frameSize).run max (serves n now count) := rfl

omit [WrittenOrd ω] in
theorem keeping_serving {serving : Serving (Daemon ω σ)} {bytes : Bytes} (phase : serving.connection.phase = .serving)
    (same : streams.serving n = serving.keeping bytes) :
    (streams.lines n).connection.phase = .serving ∧ (streams.lines n).connection.arrived = bytes ∧
      streams.serving n = serving.holding bytes := by
  have kept : serving.keeping bytes = serving.holding bytes := by simp only [Serving.keeping, phase]
  rw [kept] at same
  have connection : (streams.lines n).connection = (serving.holding bytes).connection := congrArg (·.connection) same
  rw [connection]
  exact ⟨phase, rfl, same⟩

theorem serve_bytes_alone (now : Int) (serving : Serving (Daemon ω σ)) (bytes : Bytes)
    (unfinished : serving.connection.isFinished = false) (free : (streams.lines n).pending = none)
    (same : streams.serving n = serving.keeping bytes) :
    ∃ count, (streams.run max (serves n now count)).serving n = serving.serveBytes Daemon.methods max now bytes ∧
      ((streams.run max (serves n now count)).lines n).pending = none := by
  fun_induction Serving.serveBytes Daemon.methods max now bytes serving generalizing streams with
  | case1 bytes serving phase payload rest taken ih =>
      obtain ⟨listens, arrived, here⟩ := keeping_serving phase same
      have first : streams.take max n now = streams.treat n now payload rest := by
        simp only [take, free, listens, arrived, taken]
      obtain ⟨treated, done⟩ := treat_alone listens now payload rest
      rw [here] at treated
      obtain ⟨count, served, still⟩ := ih ((Serving.treat_finished serving _ now payload).trans unfinished) done
        (treated.trans (Serving.treat_holding phase _ now payload rest))
      refine ⟨count + 1, ?_⟩
      rw [run_serves, first]
      exact ⟨served, still⟩
  | case2 bytes serving phase length taken =>
      obtain ⟨listens, arrived, here⟩ := keeping_serving phase same
      have first : streams.take max n now = streams.refuse n now length max := by
        simp only [take, free, listens, arrived, taken]
      obtain ⟨refused, done⟩ := refuse_alone listens now length max
      refine ⟨1, ?_⟩
      rw [run_serves, first]
      rw [here, Serving.refuse_holding] at refused
      exact ⟨refused, done⟩
  | case3 bytes serving phase taken finished =>
      rw [unfinished] at finished
      cases finished
  | case4 bytes serving phase taken notFinished =>
      obtain ⟨_, _, here⟩ := keeping_serving phase same
      exact ⟨0, here, free⟩
  | case5 bytes serving elsewhere =>
      refine ⟨0, same.trans ?_, free⟩
      unfold Serving.keeping
      split
      · rename_i phase
        exact absurd phase elsewhere
      · rfl

-- A connection that nothing comes between takes and answers all frames that have arrived.
theorem serve_alone (phase : (streams.lines n).connection.phase = .serving)
    (unfinished : (streams.lines n).connection.isFinished = false) (free : (streams.lines n).pending = none)
    (max : Nat) (now : Int) :
    ∃ count, (streams.run max (serves n now count)).serving n = (streams.serving n).serve Daemon.methods max now ∧
      ((streams.run max (serves n now count)).lines n).pending = none := by
  refine serve_bytes_alone now ((streams.serving n).holding []) _ unfinished free ?_
  unfold Serving.keeping
  split
  · rfl
  · rename_i elsewhere
    exact absurd phase elsewhere

omit [WrittenOrd ω] in
-- A connection that is not writing is closed.
theorem leave_alone (free : (streams.lines n).pending = none)
    (lasting : (streams.lines n).connection.isClosed = false) :
    (streams.leave n).serving n = (streams.serving n).close := by
  cases phase : (streams.lines n).connection.phase with
  | serving => simp only [leave, free, phase, put_serving]
  | streaming feed => simp only [leave, free, phase, put_serving]
  | closed =>
      simp only [Connection.isClosed, phase] at lasting
      cases lasting

section

variable {past : Hub.History Change} {serving : Serving (Daemon ω σ)}

omit [WrittenOrd ω] in
theorem forward_eq (phase : serving.connection.phase = .streaming (.subscription id)) :
    serving.forward =
      if (serving.state.hub.drain id).2.isRegistered id then
        Serving.enter ⟨((serving.state.hub.drain id).1.map fun change => Text.bytes change.text).foldl Connection.write
          serving.connection, { serving.state with hub := (serving.state.hub.drain id).2 }, serving.ids⟩
            (.subscription id)
      else
        ⟨(((serving.state.hub.drain id).1.map fun change => Text.bytes change.text).foldl Connection.write
          serving.connection).close, { serving.state with hub := (serving.state.hub.drain id).2.drop id },
            serving.ids⟩ := by
  have same : (HasHub.hub serving.state).drain id = serving.state.hub.drain id := rfl
  simp only [Serving.forward, phase, Feed.take, same]
  cases (serving.state.hub.drain id).2.isRegistered id with
  | true => rfl
  | false => rfl

omit [WrittenOrd ω] in
-- Nothing is left to be forwarded.
theorem forward_nil (ran : Hub.Ran past serving.state.hub) (held : Hub.holds id past = true)
    (phase : serving.connection.phase = .streaming (.subscription id)) (quiet : serving.connection.arrived = [])
    (nothing : Hub.unread id past = []) :
    serving.forward = if Hub.attends id past then serving else serving.close := by
  rw [forward_eq phase, ran.drain_nil held nothing, ran.is_registered]
  obtain ⟨⟨_, _, isFinished, written⟩, daemon, ids⟩ := serving
  subst phase quiet
  rfl

-- One event has been taken and written.
def passed (serving : Serving (Daemon ω σ)) (id : Nat) (frame : Bytes) : Serving (Daemon ω σ) :=
  ⟨{ serving.connection with written := serving.connection.written ++ [frame] },
    { serving.state with hub := (serving.state.hub.receive id).2 }, serving.ids⟩

omit [WrittenOrd ω] in
theorem forward_cons (ran : Hub.Ran past serving.state.hub) (held : Hub.holds id past = true)
    (phase : serving.connection.phase = .streaming (.subscription id)) {event : Change} {rest : List Change}
    (left : Hub.unread id past = event :: rest) {frame : Bytes}
    (written : Frame.write (Text.bytes event.text) = .ok frame) :
    serving.forward = (passed serving id frame).forward := by
  have first : serving.connection.write (Text.bytes event.text) = (passed serving id frame).connection := by
    simp only [Connection.write, written, passed]
  rw [forward_eq phase, ran.drain_cons held left, List.map_cons, List.foldl_cons, first, forward_eq]
  · rfl
  · exact phase

end

-- So many events are taken and written.
def forwards (n : Nat) (count : Nat) : List (Move ω σ) :=
  (List.replicate count [.event n, .write n frameSize]).flatten

theorem run_forwards (max n : Nat) (count : Nat) (streams : Streams ω σ) :
    streams.run max (forwards n (count + 1)) =
      ((streams.event n).write n frameSize).run max (forwards n count) := rfl

omit [WrittenOrd ω] in
theorem event_some (free : (streams.lines n).pending = none)
    (phase : (streams.lines n).connection.phase = .streaming (.subscription id)) {change : Change} {hub : Hub Change}
    (received : streams.daemon.hub.receive id = (.event change, hub)) :
    streams.event n = streams.put n { streams.serving n with state := { streams.daemon with hub } }
      { streams.lines n with pending := some (.message (Text.bytes change.text)) } [.received id (.event change)] := by
  simp only [event, free, phase, received]

omit [WrittenOrd ω] in
theorem event_waiting (free : (streams.lines n).pending = none)
    (phase : (streams.lines n).connection.phase = .streaming (.subscription id)) {hub : Hub Change}
    (received : streams.daemon.hub.receive id = (.waiting, hub)) : streams.event n = streams := by
  simp only [event, free, phase, received]

omit [WrittenOrd ω] in
theorem event_closed (free : (streams.lines n).pending = none)
    (phase : (streams.lines n).connection.phase = .streaming (.subscription id)) {hub : Hub Change}
    (received : streams.daemon.hub.receive id = (.closed, hub)) :
    streams.event n = streams.put n (streams.serving n).close { streams.lines n with exhausted := true }
      (streams.lines n).dropped := by
  simp only [event, free, phase, received]

omit [WrittenOrd ω] in
theorem write_nothing (free : (streams.lines n).pending = none) (size : Nat) : streams.write n size = streams := by
  simp only [write, free]

omit [WrittenOrd ω] in
theorem event_alone (free : (streams.lines n).pending = none)
    (phase : (streams.lines n).connection.phase = .streaming (.subscription id)) {change : Change} {hub : Hub Change}
    (received : streams.daemon.hub.receive id = (.event change, hub)) {frame : Bytes}
    (written : Frame.write (Text.bytes change.text) = .ok frame) :
    ((streams.event n).write n frameSize).serving n = passed (streams.serving n) id frame ∧
      (((streams.event n).write n frameSize).lines n).pending = none := by
  have taken := event_some free phase received
  have here : ((streams.event n).lines n).pending = some (.message (Text.bytes change.text)) := by
    rw [taken, put_line]
  obtain ⟨served, done⟩ := write_all here
  refine ⟨?_, done⟩
  rw [served, taken, put_serving]
  simp only [Pending.payload, written, Serving.wrote, passed, Streams.serving, received]

-- A stream that nothing comes between forwards all that is in its queue, and ends if that was closed.
theorem forward_alone {past : Hub.History Change} (ran : Hub.Ran past streams.daemon.hub)
    (held : Hub.holds id past = true) (phase : (streams.lines n).connection.phase = .streaming (.subscription id))
    (quiet : (streams.lines n).connection.arrived = []) (free : (streams.lines n).pending = none)
    {events : List Change} (left : Hub.unread id past = events)
    (fit : ∀ event ∈ events, (Text.bytes event.text).length ≤ Frame.lengthLimit) (max : Nat) :
    (streams.run max (forwards n (events.length + 1))).serving n = (streams.serving n).forward ∧
      ((streams.run max (forwards n (events.length + 1))).lines n).pending = none := by
  induction events generalizing streams past with
  | nil =>
      have last : (streams.serving n).forward =
          if Hub.attends id past then streams.serving n else (streams.serving n).close :=
        forward_nil ran held phase quiet left
      have received := ran.receive_eq id
      simp only [Hub.next, held, left] at received
      rw [List.length_nil, run_forwards]
      show ((streams.event n).write n frameSize).serving n = _ ∧
        (((streams.event n).write n frameSize).lines n).pending = _
      cases attending : Hub.attends id past with
      | true =>
          rw [attending] at last received
          rw [event_waiting free phase (Prod.ext received rfl), write_nothing free]
          exact ⟨last.symm, free⟩
      | false =>
          rw [attending] at last received
          rw [event_closed free phase (Prod.ext received rfl), write_nothing]
          · rw [put_serving]
            exact ⟨last.symm, by simp [free]⟩
          · simp [free]
  | cons event rest ih =>
      obtain ⟨fits, others⟩ := List.forall_mem_cons.mp fit
      have written := Frame.write_ok fits
      have received : (streams.daemon.hub.receive id).1 = .event event := by rw [ran.receive_cons held left]
      obtain ⟨served, done⟩ := event_alone free phase (Prod.ext received rfl) written
      have all : (streams.serving n).forward = (passed (streams.serving n) id _).forward :=
        forward_cons ran held phase left written
      have later := ran.visit (.receive id)
      simp only [Hub.visit, received] at later
      have state := congrArg Serving.state served
      have connection := congrArg Serving.connection served
      simp only [Streams.serving, passed] at state connection
      have still : Hub.holds id (.received id (.event event) :: past) = true := held
      rw [List.length_cons, run_forwards, all, ← served]
      refine ih ?_ still ?_ ?_ done (Hub.unread_received (ran.hub_eq.2 id) left) others
      · rw [state]
        exact later
      · rw [connection]
        exact phase
      · rw [connection]
        exact quiet

end Streams

end Bookmarks
