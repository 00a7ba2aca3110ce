import Bookmarks.Daemon.Methods
import Bookmarks.Proofs.Daemon.Reachable
import Bookmarks.Proofs.Json.Length
import Bookmarks.Proofs.Wire.Framing
import Bookmarks.Proofs.Wire.Requests
import Bookmarks.Server.Connection
import Mathlib.Data.List.Forall2

/-!
A connection from its first byte to its last. The frames that can be read from what arrives are answered one after
another (`Conversation`), until one opens a stream, and each reply is sent before the next frame is looked at.
-/
set_option autoImplicit false

namespace Bookmarks

open Bookmarks.Json (Value Decoder Source literal)

variable {δ : Type}

-- What a client and the handlers can tell of a connection.
structure Dialogue (δ : Type) where
  phase : Phase
  written : Frame.Stream
  state : δ

def Serving.dialogue (serving : Serving δ) : Dialogue δ :=
  ⟨serving.connection.phase, serving.connection.written, serving.state⟩

namespace Response

-- The response tells how a call ended.
def Carries (response : Response) : Except Fault Value → Prop
  | .ok result => response.ok = true ∧ response.result = some result ∧ response.error = none
  | .error fault => response.ok = false ∧ response.result = none ∧ response.error = some fault

def Refuses (response : Response) : Prop := ∃ fault, response.Carries (.error fault) ∧ fault.code = .invalidRequest

theorem success_carries (id : Option Value) (trace : String) (result : Value) :
    (success id trace result).Carries (.ok result) := ⟨rfl, rfl, rfl⟩

theorem failure_carries (id : Option Value) (trace : String) (fault : Fault) :
    (failure id trace fault).Carries (.error fault) := ⟨rfl, rfl, rfl⟩

end Response

-- What a frame leads to: a response, a feed if one is opened, and another state if a handler is called.
inductive Handled (methods : Methods δ) (now : Int) (state : δ) (payload : Bytes) :
    Response → Option Feed → δ → Prop
  | malformed {problem : Json.Problem} {response : Response}
      (undecoded : Decoder.ofSource Request.decoder (Source.ofBytes payload) = .error problem)
      (refused : response.Refuses) : Handled methods now state payload response none state
  | unknown {request : Request} {response : Response}
      (decoded : Decoder.ofSource Request.decoder (Source.ofBytes payload) = .ok request)
      (single : methods.singles.get? request.method = none) (stream : methods.streams.get? request.method = none)
      (refused : response.Refuses) : Handled methods now state payload response none state
  | single {request : Request} {handle : Handler δ} {outcome : Except Fault Value} {next : δ} {response : Response}
      (decoded : Decoder.ofSource Request.decoder (Source.ofBytes payload) = .ok request)
      (found : methods.singles.get? request.method = some handle)
      (called : handle now state request.params = (outcome, next))
      (carried : response.Carries outcome) : Handled methods now state payload response none next
  | opened {request : Request} {opener : Opener δ} {feed : Feed} {next : δ} {response : Response}
      (decoded : Decoder.ofSource Request.decoder (Source.ofBytes payload) = .ok request)
      (single : methods.singles.get? request.method = none)
      (found : methods.streams.get? request.method = some opener)
      (called : opener now state request.params = (.ok feed, next))
      (carried : response.Carries (.ok (.obj [("subscribed", .bool true)]))) :
      Handled methods now state payload response (some feed) next
  | unopened {request : Request} {opener : Opener δ} {fault : Fault} {next : δ} {response : Response}
      (decoded : Decoder.ofSource Request.decoder (Source.ofBytes payload) = .ok request)
      (single : methods.singles.get? request.method = none)
      (found : methods.streams.get? request.method = some opener)
      (called : opener now state request.params = (.error fault, next))
      (carried : response.Carries (.error fault)) : Handled methods now state payload response none next

-- The response carries the id of the frame if that is an object at all.
def Response.Answers (response : Response) (payload : Bytes) : Prop :=
  ∀ members, Decoder.ofSource Decoder.value (Source.ofBytes payload) = .ok (.obj members) →
    response.id = idAmong members

namespace Methods

variable {methods : Methods δ} {now : Int} {state : δ} {trace : String} {payload : Bytes}

theorem bad_request_code (problem : Json.Problem) : (badRequest problem).code = .invalidRequest := by
  cases problem <;> rfl

theorem dispatch_handled {request : Request} (now : Int) (state : δ) (trace : String)
    (decoded : Decoder.ofSource Request.decoder (Source.ofBytes payload) = .ok request) :
    Handled methods now state payload (methods.dispatch now state trace request).1.response
      (methods.dispatch now state trace request).1.feed (methods.dispatch now state trace request).2 := by
  cases single : methods.singles.get? request.method with
  | some handle =>
      cases called : handle now state request.params with
      | mk outcome next =>
          cases outcome with
          | ok result =>
              simp only [dispatch, find?, single, called]
              exact .single decoded single called (Response.success_carries _ _ _)
          | error fault =>
              simp only [dispatch, find?, single, called]
              exact .single decoded single called (Response.failure_carries _ _ _)
  | none =>
      cases stream : methods.streams.get? request.method with
      | none =>
          simp only [dispatch, find?, single, stream, Option.map_none]
          exact .unknown decoded single stream ⟨_, Response.failure_carries _ _ _, rfl⟩
      | some opener =>
          cases called : opener now state request.params with
          | mk outcome next =>
              cases outcome with
              | ok feed =>
                  simp only [dispatch, find?, single, stream, called, Option.map_some]
                  exact .opened decoded single stream called (Response.success_carries _ _ _)
              | error fault =>
                  simp only [dispatch, find?, single, stream, called, Option.map_some]
                  exact .unopened decoded single stream called (Response.failure_carries _ _ _)

theorem answer_handled (methods : Methods δ) (now : Int) (state : δ) (trace : String) (payload : Bytes) :
    Handled methods now state payload (methods.answer now state trace payload).1.response
      (methods.answer now state trace payload).1.feed (methods.answer now state trace payload).2 := by
  unfold answer
  cases decoded : Decoder.ofSource Request.decoder (Source.ofBytes payload) with
  | error problem => exact .malformed decoded ⟨_, Response.failure_carries _ _ _, bad_request_code problem⟩
  | ok request => exact dispatch_handled now state trace decoded

theorem dispatch_id (methods : Methods δ) (now : Int) (state : δ) (trace : String) (request : Request) :
    (methods.dispatch now state trace request).1.response.id = request.id := by
  unfold dispatch
  cases methods.find? request.method with
  | none => rfl
  | some method =>
      cases method with
      | single handle =>
          cases called : handle now state request.params with
          | mk outcome next => cases outcome <;> simp only [called] <;> rfl
      | streaming opener =>
          cases called : opener now state request.params with
          | mk outcome next => cases outcome <;> simp only [called] <;> rfl

theorem answer_id (methods : Methods δ) (now : Int) (state : δ) (trace : String) (payload : Bytes) :
    (methods.answer now state trace payload).1.response.Answers payload := by
  intro members whole
  unfold answer
  cases decoded : Decoder.ofSource Request.decoder (Source.ofBytes payload) with
  | error problem =>
      show idIn payload = idAmong members
      simp only [idIn, whole, idAmong]
  | ok request =>
      simp only [dispatch_id]
      exact Request.id_of_object decoded whole

end Methods

def Phase.after : Option Feed → Phase
  | none => .serving
  | some feed => .streaming feed

-- A frame that was answered, when that was, and with what.
structure Turn where
  now : Int
  payload : Bytes
  response : Response

-- What is sent.
def Turn.reply (turn : Turn) : Bytes := Text.bytes turn.response.value.compact

-- Frames that are answered one after another, up to one that opens a stream.
inductive Conversation (methods : Methods δ) : δ → List Turn → Phase → δ → Prop
  | done (state : δ) : Conversation methods state [] .serving state
  | answered {state next last : δ} {turn : Turn} {rest : List Turn} {phase : Phase}
      (handled : Handled methods turn.now state turn.payload turn.response none next)
      (answers : turn.response.Answers turn.payload) (others : Conversation methods next rest phase last) :
      Conversation methods state (turn :: rest) phase last
  | opened {state next : δ} {turn : Turn} {feed : Feed}
      (handled : Handled methods turn.now state turn.payload turn.response (some feed) next)
      (answers : turn.response.Answers turn.payload) : Conversation methods state [turn] (.streaming feed) next

-- Each reply is one frame.
def Sent (turns : List Turn) (frames : Frame.Stream) : Prop :=
  List.Forall₂ (fun turn frame => Frame.write turn.reply = .ok frame) turns frames

-- Every reply can be read. A client reads frames, whose lengths have 32 bits; a longer reply is in no frame, and sending
-- it fails as it does when nobody reads.
def Readable (turns : List Turn) : Prop := ∀ turn ∈ turns, turn.reply.length ≤ Frame.lengthLimit

-- How a connection stands when all that has arrived was looked at and all replies were sent: it waits for the rest of a
-- frame, it has refused a frame for its length, or it has become a stream before.
inductive Rests (max : Nat) (frames : Frame.Stream) (last : δ) (serving : Serving δ) :
    Phase → Frame.Ending → List Bytes → Prop
  | waiting {ending : Frame.Ending} (incomplete : ∀ length unread, ending ≠ .failed (.tooLarge length max) unread)
      (same : serving.dialogue = ⟨.serving, frames, last⟩) : Rests max frames last serving .serving ending []
  | refused {length : Nat} {unread : Bytes} {response : Response} {frame : Bytes} (unnamed : response.id = none)
      (refused : response.Refuses) (written : Frame.write (Text.bytes response.value.compact) = .ok frame)
      (closed : serving.dialogue = ⟨.closed, frames ++ [frame], last⟩) :
      Rests max frames last serving .serving (.failed (.tooLarge length max) unread) []
  | streaming {feed : Feed} (ending : Frame.Ending) (unserved : List Bytes)
      (same : serving.dialogue = ⟨.streaming feed, frames, last⟩) :
      Rests max frames last serving (.streaming feed) ending unserved

theorem Conversation.append {methods : Methods δ} {start between last : δ} {first second : List Turn} {phase : Phase}
    (earlier : Conversation methods start first .serving between)
    (rest : Conversation methods between second phase last) :
    Conversation methods start (first ++ second) phase last := by
  generalize serving : Phase.serving = middle at earlier
  induction earlier with
  | done => exact rest
  | answered handled answers _ ih => exact .answered handled answers (ih rest serving)
  | opened => cases serving

theorem Sent.append {first second : List Turn} {frames others : Frame.Stream} (earlier : Sent first frames)
    (rest : Sent second others) : Sent (first ++ second) (frames ++ others) := by
  induction earlier with
  | nil => exact rest
  | cons same _ ih => exact .cons same ih

theorem Sent.readable {turns : List Turn} {frames : Frame.Stream} (sent : Sent turns frames) : Readable turns := by
  induction sent with
  | nil => exact List.forall_mem_nil _
  | cons written _ ih => exact List.forall_mem_cons.mpr ⟨(Frame.write_eq_ok written).1, ih⟩

-- The client reads what was sent, one reply after another.
theorem Sent.read {turns : List Turn} {frames : Frame.Stream} (sent : Sent turns frames) :
    Frame.readAll Frame.lengthLimit frames = (turns.map Turn.reply, .clean) := by
  have written : Frame.Written Frame.lengthLimit (turns.map Turn.reply) frames.flatten := by
    induction sent with
    | nil => exact Frame.written_nil _
    | cons same _ ih => exact Frame.written_cons.mpr ⟨(Frame.write_eq_ok same).1, _, _, same, ih, rfl⟩
  exact Frame.read_all_of_written written rfl

section

variable [HasHub δ]

-- What is left of a state when a connection in some phase is closed.
def Phase.leave (state : δ) : Phase → δ
  | .streaming feed => feed.release state
  | _ => state

-- How a connection stands: as it rests, with the bytes that no frame was made of, or closed in the place of a reply that
-- is longer than any frame can be.
inductive Treated (methods : Methods δ) (max : Nat) (start : δ) (before : Frame.Stream) (tail : Bytes)
    (serving : Serving δ) : List Turn → List Bytes → Prop
  | waiting {turns : List Turn} {last : δ} {frames : Frame.Stream}
      (conversation : Conversation methods start turns .serving last) (sent : Sent turns frames)
      (incomplete : Frame.arrived max tail = .unfinished)
      (same : serving.dialogue = ⟨.serving, before ++ frames, last⟩) (kept : serving.connection.arrived = tail) :
      Treated methods max start before tail serving turns []
  | refused {turns : List Turn} {last : δ} {frames : Frame.Stream} {length : Nat} {response : Response} {frame : Bytes}
      (conversation : Conversation methods start turns .serving last) (sent : Sent turns frames)
      (large : Frame.arrived max tail = .tooLarge length) (unnamed : response.id = none) (refused : response.Refuses)
      (written : Frame.write (Text.bytes response.value.compact) = .ok frame)
      (closed : serving.dialogue = ⟨.closed, before ++ frames ++ [frame], last⟩) :
      Treated methods max start before tail serving turns []
  | streaming {turns : List Turn} {last : δ} {frames : Frame.Stream} {feed : Feed} (unserved : List Bytes)
      (conversation : Conversation methods start turns (.streaming feed) last) (sent : Sent turns frames)
      (same : serving.dialogue = ⟨.streaming feed, before ++ frames, last⟩) :
      Treated methods max start before tail serving turns unserved
  | cut {turns : List Turn} {turn : Turn} {phase : Phase} {last : δ} {frames : Frame.Stream} (unserved : List Bytes)
      (conversation : Conversation methods start (turns ++ [turn]) phase last) (sent : Sent turns frames)
      (long : Frame.lengthLimit < turn.reply.length)
      (closed : serving.dialogue = ⟨.closed, before ++ frames, phase.leave last⟩) :
      Treated methods max start before tail serving (turns ++ [turn]) unserved

theorem Treated.after {methods : Methods δ} {max : Nat} {start between : δ} {before frames : Frame.Stream}
    {tail : Bytes} {serving : Serving δ} {first second : List Turn} {unserved : List Bytes}
    (conversation : Conversation methods start first .serving between) (sent : Sent first frames)
    (standing : Treated methods max between (before ++ frames) tail serving second unserved) :
    Treated methods max start before tail serving (first ++ second) unserved := by
  cases standing with
  | waiting others more incomplete same kept =>
      exact .waiting (conversation.append others) (sent.append more) incomplete (by rw [← List.append_assoc]; exact same) kept
  | refused others more large unnamed refused written closed =>
      exact .refused (conversation.append others) (sent.append more) large unnamed refused written
        (by rw [← List.append_assoc]; exact closed)
  | streaming _ others more same =>
      exact .streaming _ (conversation.append others) (sent.append more) (by rw [← List.append_assoc]; exact same)
  | cut _ others more long closed =>
      rw [← List.append_assoc]
      have whole := conversation.append others
      rw [← List.append_assoc] at whole
      exact .cut _ whole (sent.append more) long (by rw [← List.append_assoc]; exact closed)

theorem trace_length (source : IdSource) (now : Int) : (source.nextTrace now).1.length = 36 := by
  have mark : "ipc-".length = 4 := by decide
  simp only [IdSource.nextTrace, IdSource.next, IdSource.text, String.length_append, String.length_ofList,
    List.length_append, List.length_cons, Text.Hex.digits_length, mark]

theorem too_large_value (length max : Nat) : (Connection.tooLarge length max).value =
    .obj [("code", .str "INVALID_REQUEST"), ("message", .str "frame too large"),
      ("details", .obj [("frameBytes", .nat length), ("maxFrameBytes", .nat max)])] := by
  have details : (((∅ : Keyed Value).insert "frameBytes" (.nat length)).insert "maxFrameBytes" (.nat max)).entries =
      [("frameBytes", .nat length), ("maxFrameBytes", .nat max)] := rfl
  simp [Connection.tooLarge, Fault.value, Fault.withDetail, Fault.invalidRequest, FaultCode.name, Value.optional,
    Value.ofKeyed, details]

theorem refusal_length {trace : String} {length max : Nat} (small : length < 10000000000)
    (bounded : max < 10000000000)
    (short : trace.length = 36) :
    (Response.failure none trace (Connection.tooLarge length max)).value.compact.length ≤ 1000 := by
  have closed : ∀ text ∈ ["ok", "error", "code", "INVALID_REQUEST", "message", "frame too large", "details",
      "frameBytes", "maxFrameBytes", "traceId"], (literal text).length ≤ 20 := by decide
  have marks : ∀ text ∈ ["\x7b", "\x7d", ":", ",", "false"], text.length ≤ 5 := by decide
  simp only [List.forall_mem_cons] at closed marks
  have traced := Json.literal_length trace
  have first := Json.nat_length small
  have second := Json.nat_length bounded
  simp only [Response.failure, Response.value, too_large_value, Value.given, Value.optional, List.nil_append,
    List.append_nil, List.cons_append, Value.compact, Value.compactMembers, Value.atomText, Bool.false_eq_true,
    if_false, String.length_append]
  omega

-- The refusal of a frame for its length always fits into a frame.
theorem refusal_written {max length : Nat} {bytes : Bytes} (source : IdSource) (now : Int)
    (large : Frame.arrived max bytes = .tooLarge length) :
    ∃ frame, Frame.write (Text.bytes (Response.failure none (source.nextTrace now).1
      (Connection.tooLarge length max)).value.compact) = .ok frame := by
  obtain ⟨above, limited⟩ := Frame.too_large_bounds large
  have small : length < 10000000000 := Nat.lt_of_le_of_lt limited (by decide)
  have short := refusal_length small (Nat.lt_trans above small) (trace_length source now)
  exact ⟨_, Frame.write_ok (Text.bytes_short (Nat.le_trans (Nat.mul_le_mul_left 4 short) (by decide)))⟩

namespace Serving

variable {serving : Serving δ} {methods : Methods δ} {now : Int} {max : Nat} {payload bytes more : Bytes}

theorem enter_finished (serving : Serving δ) (feed : Feed) :
    (serving.enter feed).connection.isFinished = serving.connection.isFinished := by
  unfold enter
  split <;> rfl

theorem write_finished (connection : Connection) (payload : Bytes) :
    (connection.write payload).isFinished = connection.isFinished := by
  unfold Connection.write
  split <;> rfl

theorem treat_finished (serving : Serving δ) (methods : Methods δ) (now : Int) (payload : Bytes) :
    (serving.treat methods now payload).connection.isFinished = serving.connection.isFinished := by
  simp only [treat]
  cases (methods.answer now serving.state (serving.ids.nextTrace now).1 payload).1.feed with
  | none => exact write_finished _ _
  | some feed => exact (enter_finished _ feed).trans (write_finished _ _)

theorem serve_elsewhere (methods : Methods δ) (max : Nat) (now : Int) (bytes : Bytes)
    (elsewhere : serving.connection.phase ≠ .serving) : serving.serveBytes methods max now bytes = serving := by
  rw [serveBytes]
  cases phase : serving.connection.phase with
  | serving => exact absurd phase elsewhere
  | streaming feed => rfl
  | closed => rfl

-- One frame and its reply.
theorem treat_ways {start : δ} {before : Frame.Stream} (same : serving.dialogue = ⟨.serving, before, start⟩)
    (methods : Methods δ) (now : Int) (payload : Bytes) :
    ∃ turn feed next, turn.now = now ∧ turn.payload = payload ∧ Conversation methods start [turn] (.after feed) next ∧
      ((∃ frame, Frame.write turn.reply = .ok frame ∧
          (serving.treat methods now payload).dialogue = ⟨.after feed, before ++ [frame], next⟩) ∨
        Frame.lengthLimit < turn.reply.length ∧
          (serving.treat methods now payload).dialogue = ⟨.closed, before, (Phase.after feed).leave next⟩) := by
  have phase : serving.connection.phase = .serving := congrArg Dialogue.phase same
  obtain rfl : serving.connection.written = before := congrArg Dialogue.written same
  obtain rfl : serving.state = start := congrArg Dialogue.state same
  have handled := methods.answer_handled now serving.state (serving.ids.nextTrace now).1 payload
  have answers := methods.answer_id now serving.state (serving.ids.nextTrace now).1 payload
  simp only [treat]
  cases answered : methods.answer now serving.state (serving.ids.nextTrace now).1 payload with
  | mk reply next =>
      obtain ⟨response, feed⟩ := reply
      rw [answered] at handled answers
      refine ⟨⟨now, payload, response⟩, feed, next, rfl, rfl, ?_, ?_⟩
      · cases feed with
        | none => exact .answered handled answers (.done next)
        | some feed => exact .opened handled answers
      · cases written : Frame.write (Text.bytes response.value.compact) with
        | ok frame =>
            have responded : serving.connection.respond response =
                { serving.connection with written := serving.connection.written ++ [frame] } := by
              simp only [Connection.respond, Connection.write, written]
            refine Or.inl ⟨frame, written, ?_⟩
            cases feed with
            | none => simp only [responded, dialogue, phase, Phase.after]
            | some feed => simp only [responded, enter, dialogue, phase, Phase.after]
        | error failure =>
            have responded : serving.connection.respond response = serving.connection.close := by
              simp only [Connection.respond, Connection.write, written]
            refine Or.inr ⟨Frame.write_eq_error written, ?_⟩
            cases feed with
            | none => simp only [responded, dialogue, Connection.close, Phase.after, Phase.leave]
            | some feed => simp only [responded, enter, dialogue, Connection.close, Phase.after, Phase.leave]

-- Frames are answered as long as there are any, unless the connection comes to its end or to a stream.
theorem serve_bytes_treated (methods : Methods δ) (max : Nat) (now : Int) (bytes : Bytes) (serving : Serving δ)
    (unfinished : serving.connection.isFinished = false) {start : δ} {before : Frame.Stream}
    (same : serving.dialogue = ⟨.serving, before, start⟩) :
    ∃ turns unserved, (Frame.split max bytes).1 = turns.map Turn.payload ++ unserved ∧ (∀ turn ∈ turns, turn.now = now) ∧
      Treated methods max start before (Frame.split max bytes).2 (serving.serveBytes methods max now bytes) turns unserved ∧
      (serving.serveBytes methods max now bytes).connection.isFinished = false := by
  fun_induction Serving.serveBytes methods max now bytes serving generalizing start before with
  | case1 bytes serving _ payload rest taken ih =>
      have still := (treat_finished serving methods now payload).trans unfinished
      obtain ⟨turn, feed, next, time, named, conversation, ways⟩ := treat_ways same methods now payload
      have timely : ∀ other ∈ [turn], other.now = now := by
        intro other member
        rw [List.mem_singleton.mp member]
        exact time
      have frames (unserved : List Bytes) : payload :: unserved = [turn].map Turn.payload ++ unserved := by
        rw [← named]
        rfl
      rw [Frame.split_of_frame taken]
      rcases ways with ⟨frame, written, treated⟩ | ⟨long, treated⟩
      · have sent : Sent [turn] [frame] := .cons written .nil
        cases feed with
        | none =>
            obtain ⟨turns, unserved, others, later, standing, open_⟩ := ih still treated
            refine ⟨[turn] ++ turns, unserved, ?_, List.forall_mem_append.mpr ⟨timely, later⟩,
              standing.after conversation sent, open_⟩
            rw [others, frames, List.map_append, List.append_assoc]
        | some feed =>
            have phase : (serving.treat methods now payload).connection.phase = .streaming feed :=
              congrArg Dialogue.phase treated
            rw [serve_elsewhere methods max now rest (by rw [phase]; exact Phase.noConfusion)]
            exact ⟨[turn], _, frames _, timely, .streaming _ conversation sent treated, still⟩
      · have phase : (serving.treat methods now payload).connection.phase = .closed := congrArg Dialogue.phase treated
        rw [serve_elsewhere methods max now rest (by rw [phase]; exact Phase.noConfusion)]
        refine ⟨[] ++ [turn], _, frames _, timely, .cut _ conversation .nil long ?_, still⟩
        rw [List.append_nil]
        exact treated
  | case2 bytes serving _ length taken =>
      obtain ⟨frame, written⟩ := refusal_written serving.ids now taken
      have responded : serving.connection.respond (Response.failure none (serving.ids.nextTrace now).1
          (Connection.tooLarge length max)) =
          { serving.connection with written := serving.connection.written ++ [frame] } := by
        simp only [Connection.respond, Connection.write, written]
      rw [Frame.split_of_none (by simp [taken])]
      refine ⟨[], [], rfl, List.forall_mem_nil _, .refused (.done _) .nil taken rfl
        ⟨_, Response.failure_carries _ _ _, rfl⟩ written ?_, ?_⟩
      · obtain rfl : serving.connection.written = before := congrArg Dialogue.written same
        obtain rfl : serving.state = start := congrArg Dialogue.state same
        simp only [refuse, responded, dialogue, Connection.close, List.append_nil]
      · simpa only [refuse, responded, Connection.close] using unfinished
  | case3 bytes serving _ taken finished =>
      rw [unfinished] at finished
      cases finished
  | case4 bytes serving _ taken notFinished =>
      rw [Frame.split_of_none (by simp [taken])]
      refine ⟨[], [], rfl, List.forall_mem_nil _, .waiting (.done _) .nil taken ?_ rfl, unfinished⟩
      rw [List.append_nil]
      exact same
  | case5 bytes serving elsewhere => exact absurd (congrArg Dialogue.phase same) elsewhere

def holding (serving : Serving δ) (bytes : Bytes) : Serving δ :=
  { serving with connection := { serving.connection with arrived := bytes } }

theorem serve_bytes_unfinished (methods : Methods δ) (now : Int) (phase : serving.connection.phase = .serving)
    (unfinished : serving.connection.isFinished = false) (part : Frame.arrived max bytes = .unfinished) :
    serving.serveBytes methods max now bytes = serving.holding bytes := by
  rw [serveBytes]
  simp only [phase]
  split
  · rename_i taken
    cases taken.symm.trans part
  · rename_i taken
    cases taken.symm.trans part
  · rw [if_neg (Bool.eq_false_iff.mp unfinished)]
    simp only [holding, phase]

theorem serve_bytes_frame (methods : Methods δ) (now : Int) (phase : serving.connection.phase = .serving)
    (whole : Frame.arrived max bytes = .frame payload more) :
    serving.serveBytes methods max now bytes = (serving.treat methods now payload).serveBytes methods max now more := by
  rw [serveBytes]
  simp only [phase]
  split
  · rename_i taken
    cases taken.symm.trans whole
    rfl
  · rename_i taken
    cases taken.symm.trans whole
  · rename_i taken
    cases taken.symm.trans whole

-- Some bytes arrive, and what is whole of them is answered.
def hear (methods : Methods δ) (max : Nat) (serving : Serving δ) (arrival : Int × Bytes) : Serving δ :=
  { serving with connection := serving.connection.receive arrival.2 }.serve methods max arrival.1

def hearAll (methods : Methods δ) (max : Nat) (serving : Serving δ) (arrivals : List (Int × Bytes)) : Serving δ :=
  arrivals.foldl (hear methods max) serving

-- What has become of a connection, of the bytes that have arrived there and when they did.
def Heard (methods : Methods δ) (max : Nat) (start : δ) (times : List Int) (bytes : Bytes) (serving : Serving δ) : Prop :=
  ∃ turns unserved, (Frame.split max bytes).1 = turns.map Turn.payload ++ unserved ∧ (∀ turn ∈ turns, turn.now ∈ times) ∧
    Treated methods max start [] (Frame.split max bytes).2 serving turns unserved ∧ serving.connection.isFinished = false

theorem hear_elsewhere (methods : Methods δ) (max : Nat) (arrival : Int × Bytes)
    (elsewhere : serving.connection.phase ≠ .serving) :
    (hear methods max serving arrival).dialogue = serving.dialogue ∧
      (hear methods max serving arrival).connection.isFinished = serving.connection.isFinished := by
  have unheard : serving.connection.receive arrival.2 = serving.connection := by
    unfold Connection.receive
    cases phase : serving.connection.phase with
    | serving => exact absurd phase elsewhere
    | streaming feed => rfl
    | closed => rfl
  simp only [hear, unheard, serve]
  rw [serve_elsewhere]
  · exact ⟨rfl, rfl⟩
  · exact elsewhere

theorem hear_serving (phase : serving.connection.phase = .serving) (arrival : Int × Bytes) :
    hear methods max serving arrival = serveBytes methods max arrival.1 (serving.connection.arrived ++ arrival.2)
      { serving with connection := { serving.connection with arrived := [] } } := by
  have heard : serving.connection.receive arrival.2 =
      { serving.connection with arrived := serving.connection.arrived ++ arrival.2 } := by
    simp only [Connection.receive, phase]
  simp only [hear, heard, serve]

theorem Heard.hear {start : δ} {times : List Int} (heard : Heard methods max start times bytes serving)
    (arrival : Int × Bytes) :
    Heard methods max start (times ++ [arrival.1]) (bytes ++ arrival.2) (serving.hear methods max arrival) := by
  obtain ⟨turns, unserved, frames, timely, standing, notFinished⟩ := heard
  have earlier : ∀ turn ∈ turns, turn.now ∈ times ++ [arrival.1] := fun turn member =>
    List.mem_append_left _ (timely turn member)
  have closed {phase : Phase} {written : Frame.Stream} {state : δ} (same : serving.dialogue = ⟨phase, written, state⟩)
      (other : phase ≠ .serving) := by
    have ended : serving.connection.phase = phase := congrArg Dialogue.phase same
    exact hear_elsewhere methods max arrival (by rwa [ended])
  unfold Heard
  rw [Frame.split_append, frames]
  cases standing with
  | waiting conversation sent incomplete same kept =>
      obtain ⟨further, unserved, others, later, standing, still⟩ :=
        serve_bytes_treated methods max arrival.1 (serving.connection.arrived ++ arrival.2)
          { serving with connection := { serving.connection with arrived := [] } } notFinished same
      rw [hear_serving (congrArg Dialogue.phase same), ← kept, others]
      refine ⟨turns ++ further, unserved, ?_, List.forall_mem_append.mpr ⟨earlier, ?_⟩,
        standing.after conversation sent, still⟩
      · rw [List.append_nil, List.map_append, List.append_assoc]
      · intro turn member
        rw [later turn member]
        exact List.mem_append_right _ (List.mem_singleton.mpr rfl)
  | refused conversation sent large unnamed refused written same =>
      have tooLarge := Frame.too_large_append large arrival.2
      obtain ⟨kept, still⟩ := closed same Phase.noConfusion
      rw [Frame.split_of_none (by simp [tooLarge])]
      exact ⟨turns, [], by rw [List.append_nil], earlier,
        .refused conversation sent tooLarge unnamed refused written (kept.trans same), still.trans notFinished⟩
  | streaming _ conversation sent same =>
      obtain ⟨kept, still⟩ := closed same Phase.noConfusion
      exact ⟨turns, _, List.append_assoc _ _ _, earlier, .streaming _ conversation sent (kept.trans same),
        still.trans notFinished⟩
  | cut _ conversation sent long same =>
      obtain ⟨kept, still⟩ := closed same Phase.noConfusion
      exact ⟨_, _, List.append_assoc _ _ _, earlier, .cut _ conversation sent long (kept.trans same), still.trans notFinished⟩

end Serving

theorem Treated.conversation {methods : Methods δ} {max : Nat} {start : δ} {before : Frame.Stream} {tail : Bytes}
    {serving : Serving δ} {turns : List Turn} {unserved : List Bytes}
    (standing : Treated methods max start before tail serving turns unserved) :
    ∃ phase last, Conversation methods start turns phase last ∧
      (Readable turns → ∃ frames, Sent turns frames ∧
        Rests max (before ++ frames) last serving phase (Frame.endingOf max tail) unserved) ∧
      (¬ Readable turns → ∃ earlier turn frames, turns = earlier ++ [turn] ∧ Sent earlier frames ∧
        serving.dialogue = ⟨.closed, before ++ frames, phase.leave last⟩) := by
  cases standing with
  | waiting conversation sent incomplete same kept =>
      refine ⟨_, _, conversation, fun _ => ⟨_, sent, .waiting ?_ same⟩, absurd sent.readable⟩
      intro length unread large
      cases incomplete.symm.trans (Frame.ending_too_large_iff.mp ⟨unread, large⟩)
  | refused conversation sent large unnamed refused written closed =>
      obtain ⟨unread, ending⟩ := Frame.ending_too_large_iff.mpr large
      rw [ending]
      exact ⟨_, _, conversation, fun _ => ⟨_, sent, .refused unnamed refused written closed⟩, absurd sent.readable⟩
  | streaming _ conversation sent same =>
      exact ⟨_, _, conversation, fun _ => ⟨_, sent, .streaming _ _ same⟩, absurd sent.readable⟩
  | cut _ conversation sent long closed =>
      refine ⟨_, _, conversation, fun readable => ?_, fun _ => ⟨_, _, _, rfl, sent, closed⟩⟩
      exact absurd (readable _ (List.mem_append_right _ (List.mem_singleton.mpr rfl))) (Nat.not_le_of_lt long)

end

end Bookmarks
