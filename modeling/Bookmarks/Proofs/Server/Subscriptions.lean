import Bookmarks.Proofs.Server.Streams

/-!
How a connection stands with the subscription that it has opened, whatever happens in between: what it has
written of the queue, whether it holds the subscription, and which of its bytes were decoded (`Sound`).
-/
set_option autoImplicit false

namespace Bookmarks

open Bookmarks.Daemon (Subscribes)

theorem Frame.Written.append_one {max : Nat} {payloads : List Bytes} {bytes payload frame : Bytes}
    (written : Written max payloads bytes) (fits : payload.length ≤ max) (one : write payload = .ok frame) :
    Written max (payloads ++ [payload]) (bytes ++ frame) := by
  obtain ⟨fit, frames, all, rfl⟩ := written
  refine ⟨?_, frames ++ [frame], map_m_append_one all one, by simp⟩
  intro other member
  rcases List.mem_append.mp member with earlier | last
  · exact fit other earlier
  · rwa [List.mem_singleton.mp last]

-- The frames of some events, one for each.
def Framed (events : List Change) (frames : List Bytes) : Prop :=
  events.mapM (fun event => Frame.write (Text.bytes event.text)) = .ok frames

theorem framed_nil : Framed [] [] := rfl

theorem Framed.append_one {events : List Change} {frames : List Bytes} {event : Change} {frame : Bytes}
    (framed : Framed events frames) (written : Frame.write (Text.bytes event.text) = .ok frame) :
    Framed (events ++ [event]) (frames ++ [frame]) := map_m_append_one framed written

theorem Framed.length_eq {events : List Change} {frames : List Bytes} (framed : Framed events frames) :
    frames.length = events.length := length_of_map_m framed

-- What a connection has written since its acknowledgement, which came when the subscription was there.
structure Line.Sent (line : Line) (heard : Hub.History Change) (id count : Nat) (past : Hub.History Change)
    (events : List Change) : Prop where
  registered : id ∈ Hub.ids past
  earlier : past <:+ heard
  counted : count ≤ line.connection.written.length
  framed : Framed events (line.connection.written.drop count)

-- A connection that has come to its end has written the first events of the queue, and perhaps a part of the
-- next one; all of them if the queue was closed.
structure Line.Left (line : Line) (heard : Hub.History Change) (id : Nat) (events : List Change) : Prop where
  first : events <+: Hub.admitted id heard
  torn : line.torn = [] ∨ ∃ event frame, events ++ [event] <+: Hub.admitted id heard ∧
    Frame.write (Text.bytes event.text) = .ok frame ∧ line.torn <+: frame ∧ line.torn.length < frame.length
  all : line.exhausted = true → events = Hub.admitted id heard

def Pending.feed? : Pending → Option Feed
  | .reply answer => answer.feed
  | _ => none

inductive Stands (heard : Hub.History Change) (line : Line) : Prop
  | unopened (unopened : line.stream = none) (unspoken : line.acknowledged = none)
      (elsewhere : ∀ feed, line.connection.phase ≠ .streaming feed)
      (plain : ∀ pending, line.pending = some pending → pending.feed? = none)
      (whole : line.connection.phase = .serving → line.torn = []) (lasting : line.exhausted = false)
  | acknowledging (id : Nat) (response : Response) (opened : line.stream = some id)
      (unspoken : line.acknowledged = none) (phase : line.connection.phase = .serving)
      (pending : line.pending = some (.reply ⟨response, some (.subscription id)⟩)) (held : Hub.holds id heard = true)
      (untouched : Hub.readBy id heard = []) (known : id ∈ Hub.ids heard) (whole : line.torn = [])
      (lasting : line.exhausted = false)
  | waiting (id count : Nat) (past : Hub.History Change) (opened : line.stream = some id)
      (told : line.acknowledged = some (count, past)) (phase : line.connection.phase = .streaming (.subscription id))
      (free : line.pending = none) (held : Hub.holds id heard = true)
      (sent : line.Sent heard id count past (Hub.readBy id heard)) (whole : line.torn = [])
      (lasting : line.exhausted = false)
  | sending (id count : Nat) (past : Hub.History Change) (events : List Change) (event : Change)
      (opened : line.stream = some id) (told : line.acknowledged = some (count, past))
      (phase : line.connection.phase = .streaming (.subscription id))
      (pending : line.pending = some (.message (Text.bytes event.text))) (held : Hub.holds id heard = true)
      (taken : Hub.readBy id heard = events ++ [event]) (sent : line.Sent heard id count past events)
      (whole : line.torn = []) (lasting : line.exhausted = false)
  | ended (id : Nat) (opened : line.stream = some id) (phase : line.connection.phase = .closed)
      (free : line.pending = none) (gone : Hub.holds id heard = false)
      (sent : ∀ count past, line.acknowledged = some (count, past) →
        ∃ events, line.Sent heard id count past events ∧ line.Left heard id events)

variable {heard later : Hub.History Change} {line : Line} {id count : Nat} {past : Hub.History Change}
  {events : List Change}

theorem Line.Sent.grow (sent : line.Sent heard id count past events) (longer : heard <:+ later) :
    line.Sent later id count past events :=
  ⟨sent.registered, sent.earlier.trans longer, sent.counted, sent.framed⟩

theorem Line.Left.grow (left : line.Left heard id events) (apart : Hub.Apart id heard later)
    (gone : Hub.holds id heard = false) : line.Left later id events := by
  have same := apart.gone gone
  exact ⟨same ▸ left.first, same ▸ left.torn, same ▸ left.all⟩

theorem ids_later (longer : heard <:+ later) (known : id ∈ Hub.ids heard) : id ∈ Hub.ids later := by
  obtain ⟨entries, rfl⟩ := longer
  induction entries with
  | nil => exact known
  | cons entry entries ih =>
      cases entry with
      | registered new => exact List.mem_cons_of_mem _ ih
      | unregistered gone => exact ih
      | dropped gone => exact ih
      | received reader answer => exact ih
      | broadcast event report => exact ih

-- What others do does not change how a connection stands.
theorem Stands.apart (stands : Stands heard line) (longer : heard <:+ later)
    (apart : ∀ id, line.stream = some id → Hub.Apart id heard later) : Stands later line := by
  cases stands with
  | unopened unopened unspoken elsewhere plain whole lasting =>
      exact .unopened unopened unspoken elsewhere plain whole lasting
  | acknowledging id response opened unspoken phase pending held untouched known whole lasting =>
      have same := apart id opened
      exact .acknowledging id response opened unspoken phase pending (same.held.trans held)
        (same.read.trans untouched) (ids_later longer known) whole lasting
  | waiting id count past opened told phase free held sent whole lasting =>
      have same := apart id opened
      exact .waiting id count past opened told phase free (same.held.trans held) (same.read ▸ sent.grow longer)
        whole lasting
  | sending id count past events event opened told phase pending held taken sent whole lasting =>
      have same := apart id opened
      exact .sending id count past events event opened told phase pending (same.held.trans held)
        (same.read.trans taken) (sent.grow longer) whole lasting
  | ended id opened phase free gone sent =>
      have same := apart id opened
      refine .ended id opened phase free (same.held.trans gone) ?_
      intro count past told
      obtain ⟨events, sent, left⟩ := sent count past told
      exact ⟨events, sent.grow longer, left.grow same gone⟩

theorem receive_same (connection : Connection) (bytes : Bytes) :
    (connection.receive bytes).phase = connection.phase ∧ (connection.receive bytes).written = connection.written := by
  unfold Connection.receive
  split <;> exact ⟨rfl, rfl⟩

-- A connection stands as before if nothing but what has arrived there is another.
theorem Stands.receive (stands : Stands heard line) {connection : Connection} {received : Bytes}
    (phase : connection.phase = line.connection.phase) (written : connection.written = line.connection.written) :
    Stands heard { line with connection, received } := by
  have sent : ∀ {id count past events}, line.Sent heard id count past events →
      Line.Sent { line with connection, received } heard id count past events := by
    intro id count past events sent
    exact ⟨sent.registered, sent.earlier, written ▸ sent.counted, written ▸ sent.framed⟩
  cases stands with
  | unopened unopened unspoken elsewhere plain whole lasting =>
      exact .unopened unopened unspoken (phase ▸ elsewhere) plain (phase ▸ whole) lasting
  | acknowledging id response opened unspoken serving pending held untouched known whole lasting =>
      exact .acknowledging id response opened unspoken (phase.trans serving) pending held untouched known whole lasting
  | waiting id count past opened told streaming free held before whole lasting =>
      exact .waiting id count past opened told (phase.trans streaming) free held (sent before) whole lasting
  | sending id count past events event opened told streaming pending held taken before whole lasting =>
      exact .sending id count past events event opened told (phase.trans streaming) pending held taken (sent before)
        whole lasting
  | ended id opened closed free gone before =>
      refine .ended id opened (phase.trans closed) free gone ?_
      intro count past told
      obtain ⟨events, done, left⟩ := before count past told
      exact ⟨events, sent done, left.first, left.torn, left.all⟩

-- What a connection that waits for a frame is like.
theorem Stands.listens (stands : Stands heard line) (free : line.pending = none)
    (phase : line.connection.phase = .serving) :
    line.stream = none ∧ line.acknowledged = none ∧ line.torn = [] ∧ line.exhausted = false := by
  cases stands with
  | unopened unopened unspoken elsewhere plain whole lasting => exact ⟨unopened, unspoken, whole phase, lasting⟩
  | acknowledging id response opened unspoken serving pending held untouched known whole lasting =>
      rw [free] at pending
      cases pending
  | waiting id count past opened told streaming free held sent whole lasting =>
      rw [phase] at streaming
      cases streaming
  | sending id count past events event opened told streaming pending held taken sent whole lasting =>
      rw [phase] at streaming
      cases streaming
  | ended id opened closed free gone sent =>
      rw [phase] at closed
      cases closed

-- What a stream that waits for an event is like.
theorem Stands.streams (stands : Stands heard line) (free : line.pending = none) {feed : Feed}
    (phase : line.connection.phase = .streaming feed) :
    ∃ id count past, feed = .subscription id ∧ line.stream = some id ∧ line.acknowledged = some (count, past) ∧
      Hub.holds id heard = true ∧ line.Sent heard id count past (Hub.readBy id heard) ∧ line.torn = [] ∧
      line.exhausted = false := by
  cases stands with
  | unopened unopened unspoken elsewhere plain whole lasting => exact absurd phase (elsewhere feed)
  | acknowledging id response opened unspoken serving pending held untouched known whole lasting =>
      rw [free] at pending
      cases pending
  | waiting id count past opened told streaming free held sent whole lasting =>
      rw [phase] at streaming
      cases streaming
      exact ⟨id, count, past, rfl, opened, told, held, sent, whole, lasting⟩
  | sending id count past events event opened told streaming pending held taken sent whole lasting =>
      rw [free] at pending
      cases pending
  | ended id opened closed free gone sent =>
      rw [phase] at closed
      cases closed

-- The bytes that were decoded are the first that were received; a request for a subscription is the last.
structure Dealt (max : Nat) (line : Line) : Prop where
  cut : ∃ whole, Frame.Written max line.treated whole ∧ whole <+: line.received ∧
    (line.connection.phase = .serving → line.received = whole ++ line.connection.arrived)
  before : line.stream = none → ∀ payload ∈ line.treated, ¬ Subscribes payload
  last : ∀ id, line.stream = some id → ∃ earlier payload, line.treated = earlier ++ [payload] ∧
    Subscribes payload ∧ ∀ payload ∈ earlier, ¬ Subscribes payload

variable {max : Nat}

theorem Dealt.keep {next : Line} (dealt : Dealt max line) (treated : next.treated = line.treated)
    (received : next.received = line.received) (stream : next.stream = line.stream)
    (arrived : next.connection.phase = .serving →
      line.connection.phase = .serving ∧ next.connection.arrived = line.connection.arrived) : Dealt max next where
  cut := by
    obtain ⟨whole, written, first, rest⟩ := dealt.cut
    rw [treated, received]
    refine ⟨whole, written, first, ?_⟩
    intro serving
    obtain ⟨phase, same⟩ := arrived serving
    rw [same, rest phase]
  before := by
    rw [treated, stream]
    exact dealt.before
  last := by
    rw [treated, stream]
    exact dealt.last

namespace Streams

variable {ω σ : Type} {streams : Streams ω σ} {n : Nat}

structure Sound (max : Nat) (streams : Streams ω σ) : Prop where
  ran : Hub.Ran streams.heard streams.daemon.hub
  stands : ∀ n, Stands streams.heard (streams.lines n)
  dealt : ∀ n, Dealt max (streams.lines n)
  single : ∀ n m id, (streams.lines n).stream = some id → (streams.lines m).stream = some id → n = m
  known : ∀ n id, (streams.lines n).stream = some id → id ∈ Hub.ids streams.heard
  owned : ∀ id, Hub.holds id streams.heard = true → ∃ n, (streams.lines n).stream = some id
  blank : ∀ n, streams.count ≤ n → streams.lines n = .absent

theorem stands_absent (heard : Hub.History Change) : Stands heard .absent :=
  .unopened rfl rfl (fun _ => Phase.noConfusion) (fun _ => nofun) (fun _ => rfl) rfl

theorem dealt_blank {line : Line} (none : line.stream = none) (untreated : line.treated = [])
    (empty : line.received = []) (quiet : line.connection.arrived = []) : Dealt max line where
  cut := by
    rw [untreated, empty, quiet]
    exact ⟨[], Frame.written_nil max, List.prefix_refl _, fun _ => rfl⟩
  before := by
    rw [untreated]
    exact fun _ => List.forall_mem_nil _
  last := by
    rw [none]
    exact fun _ => nofun

theorem sound_start (max : Nat) {daemon : Daemon ω σ} (fresh : daemon.hub = Hub.empty) (ids : IdSource) :
    Sound max (start daemon ids) where
  ran := fresh ▸ .start
  stands := fun _ => stands_absent _
  dealt := fun _ => dealt_blank rfl rfl rfl rfl
  single := fun _ _ _ => nofun
  known := fun _ _ => nofun
  owned := fun _ => nofun
  blank := fun _ _ => rfl

-- What happens elsewhere leaves the connections as they are.
theorem Sound.elsewhere (sound : Sound max streams) {daemon : Daemon ω σ} {heard : Hub.History Change}
    (ran : Hub.Ran heard daemon.hub) (longer : streams.heard <:+ heard)
    (apart : ∀ id, Hub.Apart id streams.heard heard) : Sound max { streams with daemon, heard } where
  ran := ran
  stands := fun n => (sound.stands n).apart longer fun id _ => apart id
  dealt := sound.dealt
  single := sound.single
  known := fun n id opened => ids_later longer (sound.known n id opened)
  owned := fun id held => sound.owned id ((apart id).held.symm.trans held)
  blank := sound.blank

-- One connection takes a step, and perhaps a subscription that nobody has had.
theorem Sound.put (sound : Sound max streams) {serving : Serving (Daemon ω σ)} {line : Line}
    {entries : Hub.History Change} (here : n < streams.count)
    (ran : Hub.Ran (entries ++ streams.heard) serving.state.hub)
    (stands : Stands (entries ++ streams.heard) { line with connection := serving.connection })
    (dealt : Dealt max { line with connection := serving.connection })
    (named : ∀ id, line.stream = some id → (streams.lines n).stream = some id ∨
      id ∉ Hub.ids streams.heard ∧ id ∈ Hub.ids (entries ++ streams.heard))
    (kept : ∀ id, (streams.lines n).stream = some id → line.stream = some id)
    (apart : ∀ id, line.stream ≠ some id → Hub.Apart id streams.heard (entries ++ streams.heard)) :
    Sound max (streams.put n serving line entries) := by
  have longer : streams.heard <:+ entries ++ streams.heard := List.suffix_append _ _
  have mine := put_line streams n serving line entries
  have others : ∀ m, m ≠ n → (streams.put n serving line entries).lines m = streams.lines m :=
    fun m different => Function.update_of_ne different ..
  have foreign : ∀ m, m ≠ n → ∀ id, (streams.lines m).stream = some id → line.stream ≠ some id := by
    intro m different id opened also
    rcases named id also with old | ⟨unknown, _⟩
    · exact different (sound.single m n id opened old)
    · exact unknown (sound.known m id opened)
  refine ⟨ran, ?stands, ?dealt, ?single, ?known, ?owned, ?blank⟩
  case stands =>
    intro m
    by_cases same : m = n
    · rw [same, mine]
      exact stands
    · rw [others m same]
      exact (sound.stands m).apart longer fun id opened => apart id (foreign m same id opened)
  case dealt =>
    intro m
    by_cases same : m = n
    · rw [same, mine]
      exact dealt
    · rw [others m same]
      exact sound.dealt m
  case single =>
    intro first second id one two
    by_cases atFirst : first = n
    · by_cases atSecond : second = n
      · exact atFirst.trans atSecond.symm
      · rw [atFirst, mine] at one
        rw [others second atSecond] at two
        exact absurd one (foreign second atSecond id two)
    · rw [others first atFirst] at one
      by_cases atSecond : second = n
      · rw [atSecond, mine] at two
        exact absurd two (foreign first atFirst id one)
      · rw [others second atSecond] at two
        exact sound.single first second id one two
  case known =>
    intro m id opened
    by_cases same : m = n
    · rw [same, mine] at opened
      rcases named id opened with old | ⟨_, new⟩
      · exact ids_later longer (sound.known n id old)
      · exact new
    · rw [others m same] at opened
      exact ids_later longer (sound.known m id opened)
  case owned =>
    intro id held
    by_cases own : line.stream = some id
    · refine ⟨n, ?_⟩
      rw [mine]
      exact own
    · obtain ⟨m, opened⟩ := sound.owned id ((apart id own).held.symm.trans held)
      have different : m ≠ n := by
        rintro rfl
        exact own (kept id opened)
      refine ⟨m, ?_⟩
      rw [others m different]
      exact opened
  case blank =>
    intro m outside
    rw [others m (Nat.ne_of_gt (Nat.lt_of_lt_of_le here outside))]
    exact sound.blank m outside

theorem Sound.below (sound : Sound max streams) (n : Nat) (known : (streams.lines n).pending ≠ none ∨
    (streams.lines n).connection.isClosed = false) : n < streams.count := by
  refine Nat.lt_of_not_le fun outside => ?_
  rw [sound.blank n outside] at known
  rcases known with writing | lasting
  · exact writing rfl
  · cases lasting

theorem Sound.put_same (sound : Sound max streams) {serving : Serving (Daemon ω σ)} {line : Line}
    {entries : Hub.History Change} (here : n < streams.count)
    (ran : Hub.Ran (entries ++ streams.heard) serving.state.hub)
    (stands : Stands (entries ++ streams.heard) { line with connection := serving.connection })
    (dealt : Dealt max { line with connection := serving.connection }) (same : line.stream = (streams.lines n).stream)
    (apart : ∀ id, line.stream ≠ some id → Hub.Apart id streams.heard (entries ++ streams.heard)) :
    Sound max (streams.put n serving line entries) :=
  sound.put here ran stands dealt (fun _ opened => Or.inl (same ▸ opened)) (fun _ opened => same ▸ opened) apart

-- The stream of a connection ends.
theorem Sound.finish (sound : Sound max streams) (opened : (streams.lines n).stream = some id)
    (here : n < streams.count) {serving : Serving (Daemon ω σ)} {line : Line}
    (closed : serving.connection.phase = .closed) (state : serving.state.hub = streams.daemon.hub.drop id)
    (stream : line.stream = (streams.lines n).stream) (treated : line.treated = (streams.lines n).treated)
    (received : line.received = (streams.lines n).received) (free : line.pending = none)
    (sent : ∀ count past, line.acknowledged = some (count, past) →
      ∃ events, Line.Sent { line with connection := serving.connection } streams.heard id count past events ∧
        Line.Left { line with connection := serving.connection } streams.heard id events) :
    Sound max (streams.put n serving line [.dropped id]) := by
  have longer : streams.heard <:+ [.dropped id] ++ streams.heard := List.suffix_append _ _
  refine sound.put_same here ?ran ?stands ?dealt stream ?apart
  case ran =>
    rw [state]
    exact sound.ran.visit (.drop id)
  case stands =>
    refine .ended id (stream.trans opened) closed free (by simp [Hub.holds]) ?_
    intro count past told
    obtain ⟨events, sent, left⟩ := sent count past told
    exact ⟨events, sent.grow longer, left.first, left.torn, left.all⟩
  case dealt =>
    refine (sound.dealt n).keep treated received stream ?_
    intro serves
    rw [show _ = Phase.closed from closed] at serves
    cases serves
  case apart =>
    intro other foreign
    refine Hub.apart_dropped ?_
    rintro rfl
    exact foreign (stream.trans opened)

theorem sound_connect (sound : Sound max streams) : Sound max streams.connect := by
  have more : Sound max { streams with count := streams.count + 1 } :=
    ⟨sound.ran, sound.stands, sound.dealt, sound.single, sound.known, sound.owned,
      fun m outside => sound.blank m (Nat.le_of_succ_le outside)⟩
  have absent := sound.blank streams.count (Nat.le_refl _)
  have added : Sound max (Streams.put { streams with count := streams.count + 1 } streams.count
      ⟨.opened, streams.daemon, streams.ids⟩ .opened []) := by
    refine more.put_same (Nat.lt_succ_self _) sound.ran ?stands ?dealt ?same fun id _ => Hub.Apart.refl id _
    case stands => exact .unopened rfl rfl (fun _ => Phase.noConfusion) (fun _ => nofun) (fun _ => rfl) rfl
    case dealt => exact dealt_blank rfl rfl rfl rfl
    case same =>
      show none = (streams.lines streams.count).stream
      rw [absent]
      rfl
  exact added

theorem sound_send (sound : Sound max streams) (n : Nat) (bytes : Bytes) : Sound max (streams.send n bytes) := by
  simp only [send]
  split
  · rename_i accepts
    have lasting : (streams.lines n).connection.isClosed = false := by
      simp only [Connection.accepts, Bool.and_eq_true, Bool.not_eq_true'] at accepts
      exact accepts.1
    obtain ⟨phase, written⟩ := receive_same (streams.lines n).connection bytes
    refine sound.put_same (sound.below n (Or.inr lasting)) sound.ran ((sound.stands n).receive phase written) ?dealt rfl
      fun id _ => Hub.Apart.refl id _
    case dealt =>
      obtain ⟨⟨whole, treated, first, rest⟩, before, last⟩ := sound.dealt n
      refine ⟨⟨whole, treated, first.trans (List.prefix_append _ _), ?_⟩, before, last⟩
      intro serving
      have here : (streams.lines n).connection.phase = .serving := phase.symm.trans serving
      have arrived : ((streams.lines n).connection.receive bytes).arrived =
          (streams.lines n).connection.arrived ++ bytes := by
        simp only [Connection.receive, here]
      show (streams.lines n).received ++ bytes = whole ++ ((streams.lines n).connection.receive bytes).arrived
      rw [rest here, arrived, List.append_assoc]
  · exact sound

theorem ran_told {hub : Hub Change} (ran : Hub.Ran heard hub) (changes : List Change) :
    Hub.Ran (hub.told changes ++ heard) (hub.broadcastAll changes) ∧
      ∀ id, Hub.Apart id heard (hub.told changes ++ heard) := by
  induction changes generalizing heard hub with
  | nil => exact ⟨ran, fun id => Hub.Apart.refl id heard⟩
  | cons change changes ih =>
      obtain ⟨later, apart⟩ := ih (ran.broadcast (some change))
      rw [Hub.told, Hub.broadcast_all_cons, List.append_assoc, List.singleton_append]
      exact ⟨later, fun id => (Hub.apart_broadcast (ran.hub_eq.2 id) (some change) _).trans (apart id)⟩

variable [WrittenOrd ω]

-- A frame makes one subscriber more, or something is announced to those there are.
theorem call_told (streams : Streams ω σ) (now : Int) (payload : Bytes) :
    (Subscribes payload ∧ streams.entries (streams.call now payload) = [.registered streams.daemon.hub.register.1] ∧
      ∃ response, streams.call now payload streams.daemon =
        (⟨response, some (.subscription streams.daemon.hub.register.1)⟩,
          { streams.daemon with hub := streams.daemon.hub.register.2 })) ∨
    ¬ Subscribes payload ∧ (streams.call now payload streams.daemon).1.feed = none ∧
      ∃ changes, (streams.call now payload streams.daemon).2.hub = streams.daemon.hub.broadcastAll changes ∧
        streams.entries (streams.call now payload) = streams.daemon.hub.told changes := by
  rcases Daemon.answer_told now streams.daemon (streams.ids.nextTrace now).1 payload with
    ⟨subscribes, id, answered⟩ | ⟨other, unfed, told⟩
  · refine Or.inl ⟨subscribes, ?_, _, answered⟩
    simp only [entries, call, answered, Option.bind_some, Feed.id?]
  · refine Or.inr ⟨other, unfed, _, told, ?_⟩
    simp only [entries, call, unfed, Option.bind_none]

theorem sound_treat (sound : Sound max streams) (free : (streams.lines n).pending = none)
    (phase : (streams.lines n).connection.phase = .serving) {payload rest : Bytes}
    (taken : Frame.arrived max (streams.lines n).connection.arrived = .frame payload rest) (now : Int) :
    Sound max (streams.treat n now payload rest) := by
  have here := sound.below n (Or.inr (by simp only [Connection.isClosed, phase]))
  obtain ⟨unopened, unspoken, whole, lasting⟩ := (sound.stands n).listens free phase
  obtain ⟨⟨bytes, written, _, cut⟩, before, _⟩ := sound.dealt n
  obtain ⟨fits, frame, framed, arrived⟩ := Frame.written_of_arrived taken
  have longer := written.append_one fits framed
  have split : (streams.lines n).received = (bytes ++ frame) ++ rest := by
    rw [cut phase, arrived, List.append_assoc]
  simp only [treat]
  rcases call_told streams now payload with
    ⟨subscribes, registered, response, answered⟩ | ⟨other, unfed, changes, told, announced⟩
  · have fresh := sound.ran.register_fresh
    have unknown : Hub.registrations streams.heard ≤ streams.daemon.hub.register.1 :=
      Nat.le_of_not_lt fun known => fresh (sound.ran.mem_ids.mpr known)
    rw [registered, answered]
    refine sound.put here (sound.ran.visit .register) ?stands ?dealt ?named ?kept ?apart
    case stands =>
      refine .acknowledging _ _ rfl unspoken phase rfl ?_ ?_ ?_ whole lasting
      · simp [Hub.holds]
      · exact ((sound.ran.hub_eq.2 _).blank_read unknown).1
      · exact List.mem_cons_self
    case dealt =>
      refine ⟨⟨_, longer, ⟨rest, split.symm⟩, fun _ => split⟩, ?_, ?_⟩
      · intro unregistered
        cases unregistered
      · intro id _
        exact ⟨_, payload, rfl, subscribes, before unopened⟩
    case named =>
      rintro id ⟨⟩
      exact Or.inr ⟨fresh, List.mem_cons_self⟩
    case kept =>
      intro id opened
      rw [unopened] at opened
      cases opened
    case apart =>
      intro id foreign
      exact Hub.apart_registered fun same => foreign (congrArg some same)
  · obtain ⟨ran, apart⟩ := ran_told sound.ran changes
    rw [announced, unfed]
    refine sound.put_same here (told ▸ ran) ?stands ?dealt unopened.symm fun id _ => apart id
    case stands =>
      refine .unopened rfl unspoken ?_ ?_ (fun _ => whole) lasting
      · intro feed
        show (streams.lines n).connection.phase ≠ .streaming feed
        rw [phase]
        exact Phase.noConfusion
      · rintro pending ⟨⟩
        exact unfed
    case dealt =>
      refine ⟨⟨_, longer, ⟨rest, split.symm⟩, fun _ => split⟩, ?_, ?_⟩
      · intro _ decoded member
        rcases List.mem_append.mp member with earlier | last
        · exact before unopened _ earlier
        · rwa [List.mem_singleton.mp last]
      · intro id opened
        cases opened

omit [WrittenOrd ω] in
theorem sound_refuse (sound : Sound max streams) (free : (streams.lines n).pending = none)
    (phase : (streams.lines n).connection.phase = .serving) (now : Int) (length : Nat) :
    Sound max (streams.refuse n now length max) := by
  have here := sound.below n (Or.inr (by simp only [Connection.isClosed, phase]))
  obtain ⟨unopened, unspoken, whole, lasting⟩ := (sound.stands n).listens free phase
  refine sound.put_same here sound.ran ?stands ?dealt rfl fun id _ => Hub.Apart.refl id _
  case stands =>
    refine .unopened unopened unspoken ?_ ?_ (fun _ => whole) lasting
    · intro feed
      show (streams.lines n).connection.phase ≠ .streaming feed
      rw [phase]
      exact Phase.noConfusion
    · rintro pending ⟨⟩
      rfl
  case dealt => exact (sound.dealt n).keep rfl rfl rfl fun serving => ⟨serving, rfl⟩

theorem sound_take (sound : Sound max streams) (n : Nat) (now : Int) : Sound max (streams.take max n now) := by
  simp only [take]
  split
  · rename_i free phase taken
    exact sound_treat sound free phase taken now
  · rename_i free phase taken
    exact sound_refuse sound free phase now _
  · exact sound

omit [WrittenOrd ω] in
theorem broke_plain {serving : Serving (Daemon ω σ)} {pending : Pending} (plain : pending.feed? = none)
    (elsewhere : ∀ feed, serving.connection.phase ≠ .streaming feed) :
    serving.broke pending = { serving with connection := serving.connection.close } := by
  have closed : serving.close = { serving with connection := serving.connection.close } := by
    unfold Serving.close
    split
    · rename_i feed phase
      exact absurd phase (elsewhere feed)
    · rfl
  cases pending with
  | reply answer =>
      obtain ⟨response, feed⟩ := answer
      cases plain
      exact closed
  | refusal response => exact closed
  | message payload => exact closed

-- What is left of a subscription whose connection is closed.
def gone (streams : Streams ω σ) (n id : Nat) : Serving (Daemon ω σ) :=
  ⟨(streams.lines n).connection.close, { streams.daemon with hub := streams.daemon.hub.drop id }, streams.ids⟩

omit [WrittenOrd ω] in
theorem close_streaming (phase : (streams.lines n).connection.phase = .streaming (.subscription id)) :
    (streams.serving n).close = streams.gone n id := by
  have streaming : (streams.serving n).connection.phase = .streaming (.subscription id) := phase
  simp only [Serving.close, streaming]
  rfl

theorem dropped_of_opened {line : Line} (opened : line.stream = some id) : line.dropped = [.dropped id] := by
  simp only [Line.dropped, opened]

theorem dropped_of_unopened {line : Line} (unopened : line.stream = none) : line.dropped = [] := by
  simp only [Line.dropped, unopened]

omit [WrittenOrd ω] in
-- A frame that does not get out whole is the last.
theorem sound_fail (sound : Sound max streams) {pending : Pending} (here : (streams.lines n).pending = some pending)
    {torn : Bytes} (part : torn = [] ∨ ∃ frame, Frame.write pending.payload = .ok frame ∧ torn <+: frame ∧
      torn.length < frame.length) : Sound max (streams.fail n pending torn) := by
  have below := sound.below n (Or.inl (by rw [here]; exact Option.some_ne_none _))
  simp only [fail]
  cases sound.stands n with
  | unopened unopened unspoken elsewhere plain whole lasting =>
      rw [broke_plain (plain pending here) elsewhere, dropped_of_unopened unopened]
      refine sound.put_same below sound.ran ?stands ?dealt rfl fun id _ => Hub.Apart.refl id _
      case stands =>
        refine .unopened unopened unspoken (fun _ => Phase.noConfusion) ?_
          (fun serving => Phase.noConfusion serving) lasting
        intro other writing
        cases writing
      case dealt => exact (sound.dealt n).keep rfl rfl rfl fun serving => Phase.noConfusion serving
  | acknowledging id response opened unspoken phase writing held untouched known whole lasting =>
      rw [here] at writing
      cases writing
      rw [dropped_of_opened opened]
      refine sound.finish opened below rfl rfl rfl rfl rfl rfl ?_
      intro count past told
      rw [unspoken] at told
      cases told
  | waiting id count past opened told phase free held sent whole lasting =>
      rw [here] at free
      cases free
  | sending id count past events event opened told phase writing held taken sent whole lasting =>
      rw [here] at writing
      cases writing
      have all := (sound.ran.hub_eq.2 id).read
      rw [taken] at all
      have next : events ++ [event] <+: Hub.admitted id streams.heard := all ▸ List.prefix_append _ _
      have closed : (streams.serving n).broke (.message (Text.bytes event.text)) = streams.gone n id :=
        close_streaming phase
      rw [closed, dropped_of_opened opened]
      refine sound.finish opened below rfl rfl rfl rfl rfl rfl ?_
      intro others before also
      rw [told] at also
      cases also
      refine ⟨events, ⟨sent.registered, sent.earlier, sent.counted, sent.framed⟩, ?_, ?_, ?_⟩
      · exact (List.prefix_append _ _).trans next
      · rcases part with nothing | ⟨frame, written, first, short⟩
        · exact Or.inl nothing
        · exact Or.inr ⟨event, frame, next, written, first, short⟩
      · intro exhausted
        rw [show _ = false from lasting] at exhausted
        cases exhausted
  | ended id opened phase free gone sent =>
      rw [here] at free
      cases free

omit [WrittenOrd ω] in
theorem wrote_plain (serving : Serving (Daemon ω σ)) {pending : Pending} (plain : pending.feed? = none)
    (frame : Bytes) :
    ∃ connection, serving.wrote pending frame = { serving with connection } ∧
      (connection.phase = serving.connection.phase ∧ connection.arrived = serving.connection.arrived ∨
        connection.phase = .closed) := by
  cases pending with
  | reply answer =>
      obtain ⟨response, feed⟩ := answer
      cases plain
      exact ⟨_, rfl, Or.inl ⟨rfl, rfl⟩⟩
  | refusal response => exact ⟨_, rfl, Or.inr rfl⟩
  | message payload => exact ⟨_, rfl, Or.inl ⟨rfl, rfl⟩⟩

theorem told_plain (line : Line) (heard : Hub.History Change) {pending : Pending} (plain : pending.feed? = none) :
    line.told heard pending = line.acknowledged := by
  cases pending with
  | reply answer =>
      obtain ⟨response, feed⟩ := answer
      cases plain
      rfl
  | refusal response => rfl
  | message payload => rfl

omit [WrittenOrd ω] in
theorem sound_wrote (sound : Sound max streams) {pending : Pending} (here : (streams.lines n).pending = some pending)
    {frame : Bytes} (written : Frame.write pending.payload = .ok frame) :
    Sound max (streams.put n ((streams.serving n).wrote pending frame)
      { streams.lines n with pending := none, acknowledged := (streams.lines n).told streams.heard pending } []) := by
  have below := sound.below n (Or.inl (by rw [here]; exact Option.some_ne_none _))
  cases sound.stands n with
  | unopened unopened unspoken elsewhere plain whole lasting =>
      obtain ⟨connection, wrote, after⟩ := wrote_plain (streams.serving n) (plain pending here) frame
      rw [wrote, told_plain _ _ (plain pending here)]
      refine sound.put_same below sound.ran ?stands ?dealt rfl fun id _ => Hub.Apart.refl id _
      case stands =>
        rcases after with ⟨phase, _⟩ | closed
        · exact .unopened unopened unspoken (phase ▸ elsewhere) (fun _ => nofun) (phase ▸ whole) lasting
        · refine .unopened unopened unspoken ?_ (fun _ => nofun) ?_ lasting
          · intro feed
            show connection.phase ≠ .streaming feed
            rw [closed]
            exact Phase.noConfusion
          · intro serving
            exact Phase.noConfusion (closed.symm.trans serving)
      case dealt =>
        refine (sound.dealt n).keep rfl rfl rfl ?_
        intro serving
        rcases after with ⟨phase, arrived⟩ | closed
        · exact ⟨phase.symm.trans serving, arrived⟩
        · exact Phase.noConfusion (closed.symm.trans serving)
  | acknowledging id response opened unspoken phase writing held untouched known whole lasting =>
      rw [here] at writing
      cases writing
      have entered : (streams.serving n).wrote (.reply ⟨response, some (.subscription id)⟩) frame =
          ⟨⟨.streaming (.subscription id), [], (streams.lines n).connection.isFinished,
            (streams.lines n).connection.written ++ [frame]⟩, streams.daemon, streams.ids⟩ := by
        simp only [Serving.wrote, Serving.enter, Streams.serving, phase]
      rw [entered]
      refine sound.put_same below sound.ran ?stands ?dealt rfl fun id _ => Hub.Apart.refl id _
      case stands =>
        have count : ((streams.lines n).connection.written ++ [frame]).length =
            (streams.lines n).connection.written.length + 1 := List.length_append
        refine .waiting id _ _ opened rfl rfl rfl held
          ⟨known, List.suffix_refl _, Nat.le_of_eq count.symm, ?_⟩ whole lasting
        show Framed (Hub.readBy id streams.heard) (((streams.lines n).connection.written ++ [frame]).drop _)
        rw [untouched, List.drop_of_length_le (Nat.le_of_eq count)]
        exact framed_nil
      case dealt => exact (sound.dealt n).keep rfl rfl rfl fun serving => Phase.noConfusion serving
  | waiting id count past opened told phase free held sent whole lasting =>
      rw [here] at free
      cases free
  | sending id count past events event opened told phase writing held taken sent whole lasting =>
      rw [here] at writing
      cases writing
      refine sound.put_same below sound.ran ?stands ?dealt rfl fun id _ => Hub.Apart.refl id _
      case stands =>
        refine .waiting id count past opened told phase rfl held ⟨sent.registered, sent.earlier, ?_, ?_⟩ whole lasting
        · exact Nat.le_trans sent.counted (by simp [Serving.wrote, Streams.serving])
        · show Framed (Hub.readBy id streams.heard) (List.drop count ((streams.lines n).connection.written ++ [frame]))
          rw [taken, List.drop_append_of_le_length sent.counted]
          exact sent.framed.append_one written
      case dealt => exact (sound.dealt n).keep rfl rfl rfl fun serving => ⟨serving, rfl⟩
  | ended id opened phase free gone sent =>
      rw [here] at free
      cases free

omit [WrittenOrd ω] in
theorem sound_write (sound : Sound max streams) (n size : Nat) : Sound max (streams.write n size) := by
  simp only [write]
  split
  · exact sound
  · rename_i pending here
    split
    · exact sound_fail sound here (Or.inl rfl)
    · rename_i frame written
      split
      · exact sound_wrote sound here written
      · rename_i part
        refine sound_fail sound here (Or.inr ⟨frame, written, List.take_prefix _ _, ?_⟩)
        rw [List.length_take]
        omega

omit [WrittenOrd ω] in
-- A stream that is not writing ends. If its queue was closed, nothing is left there.
theorem sound_close (sound : Sound max streams) (free : (streams.lines n).pending = none) {feed : Feed}
    (phase : (streams.lines n).connection.phase = .streaming feed) {exhausted : Bool}
    (all : ∀ id, (streams.lines n).stream = some id → exhausted = true →
      Hub.readBy id streams.heard = Hub.admitted id streams.heard) :
    Sound max (streams.put n (streams.serving n).close { streams.lines n with exhausted }
      (streams.lines n).dropped) := by
  obtain ⟨id, count, past, rfl, opened, told, held, sent, whole, _⟩ := (sound.stands n).streams free phase
  have below := sound.below n (Or.inr (by simp only [Connection.isClosed, phase]))
  rw [close_streaming phase, dropped_of_opened opened]
  refine sound.finish opened below rfl rfl rfl rfl rfl free ?_
  intro others before also
  cases told.symm.trans also
  refine ⟨Hub.readBy id streams.heard, ⟨sent.registered, sent.earlier, sent.counted, sent.framed⟩, ?_, Or.inl whole, ?_⟩
  · rw [(sound.ran.hub_eq.2 id).read]
    exact List.prefix_append _ _
  · exact all id opened

omit [WrittenOrd ω] in
theorem sound_event (sound : Sound max streams) (n : Nat) : Sound max (streams.event n) := by
  simp only [event]
  split
  · rename_i id free phase
    obtain ⟨_, count, past, same, opened, told, held, sent, whole, lasting⟩ := (sound.stands n).streams free phase
    cases same
    split
    · rename_i change hub received
      have visited := sound.ran.visit (.receive id)
      simp only [Hub.visit, received] at visited
      have below := sound.below n (Or.inr (by simp only [Connection.isClosed, phase]))
      refine sound.put_same below visited ?stands ?dealt rfl ?apart
      case stands =>
        refine .sending id count past (Hub.readBy id streams.heard) change opened told phase rfl held ?_ ?_ whole
          lasting
        · exact if_pos rfl
        · exact ⟨sent.registered, sent.earlier.trans (List.suffix_append _ _), sent.counted, sent.framed⟩
      case dealt => exact (sound.dealt n).keep rfl rfl rfl fun serving => ⟨serving, rfl⟩
      case apart =>
        intro other foreign
        refine Hub.apart_received ?_ change
        rintro rfl
        exact foreign opened
    · exact sound
    · rename_i hub received
      refine sound_close sound free phase ?_
      intro other also _
      cases opened.symm.trans also
      have answer := sound.ran.receive_eq id
      have all := (sound.ran.hub_eq.2 id).read
      rw [received, Hub.next, held] at answer
      cases left : Hub.unread id streams.heard with
      | nil => rw [all, left, List.append_nil]
      | cons event rest =>
          rw [left] at answer
          cases answer
  · exact sound

omit [WrittenOrd ω] in
theorem sound_leave (sound : Sound max streams) (n : Nat) : Sound max (streams.leave n) := by
  simp only [leave]
  split
  · exact sound
  · exact sound
  · rename_i free lasting
    cases phase : (streams.lines n).connection.phase with
    | closed => exact absurd phase lasting
    | streaming feed =>
        refine sound_close sound free phase ?_
        intro id _ exhausted
        obtain ⟨_, _, _, _, _, _, _, _, _, lasting⟩ := (sound.stands n).streams free phase
        rw [lasting] at exhausted
        cases exhausted
    | serving =>
        obtain ⟨unopened, unspoken, whole, fresh⟩ := (sound.stands n).listens free phase
        have below := sound.below n (Or.inr (by simp only [Connection.isClosed, phase]))
        have listens : (streams.serving n).connection.phase = .serving := phase
        rw [dropped_of_unopened unopened]
        simp only [Serving.close, listens]
        refine sound.put_same below sound.ran ?stands ?dealt rfl fun id _ => Hub.Apart.refl id _
        case stands =>
          refine .unopened unopened unspoken (fun _ => Phase.noConfusion) ?_
            (fun serving => Phase.noConfusion serving) fresh
          intro pending writing
          rw [free] at writing
          cases writing
        case dealt => exact (sound.dealt n).keep rfl rfl rfl fun serving => Phase.noConfusion serving

theorem Sound.step (sound : Sound max streams) (move : Move ω σ) : Sound max (streams.step max move) := by
  cases move with
  | connect => exact sound_connect sound
  | send n bytes => exact sound_send sound n bytes
  | take n now => exact sound_take sound n now
  | write n size => exact sound_write sound n size
  | event n => exact sound_event sound n
  | leave n => exact sound_leave sound n
  | unregister id =>
      exact sound.elsewhere (sound.ran.visit (.unregister id)) (List.suffix_cons _ _)
        fun other => Hub.apart_unregistered id
  | announce event =>
      exact sound.elsewhere (sound.ran.broadcast event) (List.suffix_cons _ _)
        fun other => Hub.apart_broadcast (sound.ran.hub_eq.2 other) event _
  | change f => exact sound.elsewhere sound.ran (List.suffix_refl _) fun other => Hub.Apart.refl other _

theorem Sound.run (sound : Sound max streams) (moves : List (Move ω σ)) : Sound max (streams.run max moves) := by
  induction moves generalizing streams with
  | nil => exact sound
  | cons move moves ih => exact ih (sound.step move)

end Streams

end Bookmarks
