import Bookmarks.Proofs.Server.Subscriptions

/-!
What subscribers get over their connections, and who is subscribed, in any run.
-/
set_option autoImplicit false

namespace Bookmarks

open Bookmarks.Daemon (Subscribes)

variable {heard : Hub.History Change} {line : Line} {id count max : Nat} {past : Hub.History Change}

-- A subscription is held as long as its stream lasts.
theorem Stands.open_eq (stands : Stands heard line) (opened : line.stream = some id) :
    line.isOpen = Hub.holds id heard := by
  cases stands with
  | unopened unopened unspoken elsewhere plain whole lasting =>
      rw [opened] at unopened
      cases unopened
  | acknowledging id response also unspoken phase pending held untouched known whole lasting =>
      cases opened.symm.trans also
      simp [Line.isOpen, Connection.isClosed, opened, phase, held]
  | waiting id count past also told phase free held sent whole lasting =>
      cases opened.symm.trans also
      simp [Line.isOpen, Connection.isClosed, opened, phase, held]
  | sending id count past events event also told phase pending held taken sent whole lasting =>
      cases opened.symm.trans also
      simp [Line.isOpen, Connection.isClosed, opened, phase, held]
  | ended id also phase free gone sent =>
      cases opened.symm.trans also
      simp [Line.isOpen, Connection.isClosed, phase, gone]

theorem Line.left_of_lasting {events : List Change} (first : events <+: Hub.admitted id heard) (whole : line.torn = [])
    (lasting : line.exhausted = false) : line.Left heard id events := by
  refine ⟨first, Or.inl whole, ?_⟩
  intro exhausted
  rw [lasting] at exhausted
  cases exhausted

-- What was written since the acknowledgement, whether the stream lasts or has ended.
theorem Stands.sent (stands : Stands heard line) (standing : Hub.Standing heard id) (opened : line.stream = some id)
    (told : line.acknowledged = some (count, past)) :
    ∃ events, line.Sent heard id count past events ∧ line.Left heard id events := by
  have read := standing.read
  cases stands with
  | unopened unopened unspoken elsewhere plain whole lasting =>
      rw [opened] at unopened
      cases unopened
  | acknowledging id response also unspoken phase pending held untouched known whole lasting =>
      rw [told] at unspoken
      cases unspoken
  | waiting id count past also before phase free held sent whole lasting =>
      cases opened.symm.trans also
      cases told.symm.trans before
      exact ⟨_, sent, Line.left_of_lasting (read ▸ List.prefix_append _ _) whole lasting⟩
  | sending id count past events event also before phase pending held taken sent whole lasting =>
      cases opened.symm.trans also
      cases told.symm.trans before
      rw [taken, List.append_assoc] at read
      exact ⟨events, sent, Line.left_of_lasting (read ▸ List.prefix_append _ _) whole lasting⟩
  | ended id also phase free gone sent =>
      cases opened.symm.trans also
      exact sent count past told

namespace Streams

variable {ω σ : Type} {streams : Streams ω σ} {n : Nat}

-- The connections between the opening of a stream and its end.
def openLines (streams : Streams ω σ) : List Nat := (List.range streams.count).filter fun n => (streams.lines n).isOpen

-- The queue of the connection has not been closed.
def served (streams : Streams ω σ) (n : Nat) : Bool := (streams.lines n).stream.any (streams.daemon.hub.isRegistered ·)

theorem Sound.mem_open (sound : Sound max streams) :
    n ∈ streams.openLines ↔ ∃ id, (streams.lines n).stream = some id ∧ Hub.holds id streams.heard = true := by
  rw [openLines, List.mem_filter, List.mem_range]
  constructor
  · rintro ⟨_, lasting⟩
    cases opened : (streams.lines n).stream with
    | none => simp [Line.isOpen, opened] at lasting
    | some id => exact ⟨id, rfl, (Stands.open_eq (sound.stands n) opened) ▸ lasting⟩
  · rintro ⟨id, opened, held⟩
    have lasting : (streams.lines n).isOpen = true := ((sound.stands n).open_eq opened).trans held
    refine ⟨?_, lasting⟩
    refine sound.below n (Or.inr ?_)
    simp only [Line.isOpen, Bool.and_eq_true, Bool.not_eq_true'] at lasting
    exact lasting.2

theorem Sound.count_eq (sound : Sound max streams) :
    streams.daemon.hub.count = (streams.openLines.filter streams.served).length := by
  have counted := sound.ran.count_registered fun _ => true
  simp only [List.filter_true, Bool.and_true] at counted
  have once : (streams.openLines.filter streams.served).Nodup := (List.nodup_range.filter _).filter _
  have named : ∀ n ∈ streams.openLines.filter streams.served,
      ∃ id, (streams.lines n).stream = some id ∧ Hub.attends id streams.heard = true := by
    intro n member
    obtain ⟨opened, served⟩ := List.mem_filter.mp member
    obtain ⟨id, stream, _⟩ := sound.mem_open.mp opened
    refine ⟨id, stream, ?_⟩
    rw [← sound.ran.is_registered]
    simpa [Streams.served, stream] using served
  have same : ((streams.openLines.filter streams.served).map fun n => (streams.lines n).stream.getD 0).Perm
      ((Hub.ids streams.heard).filter (Hub.attends · streams.heard)) := by
    refine (List.perm_ext_iff_of_nodup ?_ (sound.ran.ids_nodup.filter _)).mpr ?_
    · refine once.map_on ?_
      intro first one second two equal
      obtain ⟨id, mine, _⟩ := named first one
      obtain ⟨other, theirs, _⟩ := named second two
      rw [mine, theirs, Option.getD_some, Option.getD_some] at equal
      exact sound.single first second id mine (equal ▸ theirs)
    · intro id
      rw [List.mem_map, List.mem_filter]
      constructor
      · rintro ⟨n, member, rfl⟩
        obtain ⟨id, stream, attending⟩ := named n member
        rw [stream]
        exact ⟨sound.known n id stream, attending⟩
      · rintro ⟨known, attending⟩
        have held := (sound.ran.hub_eq.2 id).held attending
        obtain ⟨n, stream⟩ := sound.owned id held
        refine ⟨n, List.mem_filter.mpr ⟨sound.mem_open.mpr ⟨id, stream, held⟩, ?_⟩, by rw [stream, Option.getD_some]⟩
        rw [served, stream, Option.any_some, sound.ran.is_registered]
        exact attending
  rw [Hub.count, counted, ← same.length_eq, List.length_map]

-- Nothing is decoded at a connection, and no stream is opened there.
def Rested (n : Nat) (streams next : Streams ω σ) : Prop :=
  (next.lines n).treated = (streams.lines n).treated ∧ (next.lines n).stream = (streams.lines n).stream

theorem put_rested {m : Nat} {serving : Serving (Daemon ω σ)} {line : Line} {entries : Hub.History Change}
    (rested : n = m → line.treated = (streams.lines m).treated ∧ line.stream = (streams.lines m).stream) :
    Rested n streams (streams.put m serving line entries) := by
  unfold Rested
  by_cases same : n = m
  · subst same
    rw [put_line]
    exact rested rfl
  · have other : (streams.put m serving line entries).lines n = streams.lines n := Function.update_of_ne same ..
    rw [other]
    exact ⟨rfl, rfl⟩

theorem write_rested (m size : Nat) : Rested n streams (streams.write m size) := by
  simp only [write]
  split
  · exact ⟨rfl, rfl⟩
  · split
    · exact put_rested fun _ => ⟨rfl, rfl⟩
    · split <;> exact put_rested fun _ => ⟨rfl, rfl⟩

theorem event_rested (m : Nat) : Rested n streams (streams.event m) := by
  simp only [event]
  split
  · split
    · exact put_rested fun _ => ⟨rfl, rfl⟩
    · exact ⟨rfl, rfl⟩
    · exact put_rested fun _ => ⟨rfl, rfl⟩
  · exact ⟨rfl, rfl⟩

theorem leave_rested (m : Nat) : Rested n streams (streams.leave m) := by
  simp only [leave]
  split
  · exact ⟨rfl, rfl⟩
  · exact ⟨rfl, rfl⟩
  · exact put_rested fun _ => ⟨rfl, rfl⟩

section

variable [WrittenOrd ω]

theorem Sound.take_rested (sound : Sound max streams) (opened : (streams.lines n).stream = some id) (m : Nat)
    (now : Int) : Rested n streams (streams.take max m now) := by
  simp only [take]
  split
  · rename_i free phase _
    refine put_rested ?_
    rintro rfl
    obtain ⟨unopened, _⟩ := (sound.stands n).listens free phase
    rw [opened] at unopened
    cases unopened
  · exact put_rested fun _ => ⟨rfl, rfl⟩
  · exact ⟨rfl, rfl⟩

-- Once a stream has been opened, nothing is decoded any more.
theorem Sound.step_rested (sound : Sound max streams) (opened : (streams.lines n).stream = some id)
    (move : Move ω σ) : Rested n streams (streams.step max move) := by
  cases move with
  | connect =>
      have different : n ≠ streams.count := by
        rintro rfl
        rw [sound.blank _ (Nat.le_refl _)] at opened
        cases opened
      have other : streams.connect.lines n = streams.lines n := Function.update_of_ne different ..
      unfold Rested
      rw [show (streams.step max .connect).lines n = _ from other]
      exact ⟨rfl, rfl⟩
  | send m bytes =>
      show Rested n streams (streams.send m bytes)
      simp only [Streams.send]
      split
      · exact put_rested fun _ => ⟨rfl, rfl⟩
      · exact ⟨rfl, rfl⟩
  | take m now => exact sound.take_rested opened m now
  | write m size => exact write_rested m size
  | event m => exact event_rested m
  | leave m => exact leave_rested m
  | unregister id => exact ⟨rfl, rfl⟩
  | announce event => exact ⟨rfl, rfl⟩
  | change f => exact ⟨rfl, rfl⟩

theorem Sound.run_treated (sound : Sound max streams) (opened : (streams.lines n).stream = some id)
    (moves : List (Move ω σ)) : ((streams.run max moves).lines n).treated = (streams.lines n).treated := by
  induction moves generalizing streams with
  | nil => rfl
  | cons move moves ih =>
      obtain ⟨same, still⟩ := sound.step_rested opened move
      exact (ih (sound.step move) (still.trans opened)).trans same

end

-- Nobody has closed a queue from outside.
def Undisturbed (heard : Hub.History Change) : Prop := ∀ id, .unregistered id ∉ heard

theorem attends_eq (undisturbed : Undisturbed heard) (id : Nat) : Hub.attends id heard = Hub.holds id heard := by
  induction heard with
  | nil => rfl
  | cons entry past ih =>
      have earlier := ih fun gone member => undisturbed gone (List.mem_cons_of_mem _ member)
      cases entry with
      | registered new => rw [Hub.attends, Hub.holds, earlier]
      | unregistered gone => exact absurd List.mem_cons_self (undisturbed gone)
      | dropped gone => rw [Hub.attends, Hub.holds, earlier]
      | received reader answer => exact earlier
      | broadcast event report => exact earlier

theorem Undisturbed.append {entries : Hub.History Change} (undisturbed : Undisturbed heard)
    (also : Undisturbed entries) : Undisturbed (entries ++ heard) := by
  intro id member
  rcases List.mem_append.mp member with new | old
  · exact also id new
  · exact undisturbed id old

theorem undisturbed_nil : Undisturbed [] := fun _ => List.not_mem_nil

theorem undisturbed_dropped (line : Line) : Undisturbed line.dropped := by
  unfold Line.dropped
  cases line.stream with
  | none => exact undisturbed_nil
  | some id => simp [Undisturbed]

theorem undisturbed_told (hub : Hub Change) (changes : List Change) : Undisturbed (hub.told changes) := by
  induction changes generalizing hub with
  | nil => exact undisturbed_nil
  | cons change changes ih => exact Undisturbed.append (by simp [Undisturbed]) (ih _)

section

variable [WrittenOrd ω]

theorem take_undisturbed (undisturbed : Undisturbed streams.heard) (max n : Nat) (now : Int) :
    Undisturbed (streams.take max n now).heard := by
  simp only [take]
  split
  · refine undisturbed.append ?_
    unfold entries
    split
    · simp [Undisturbed]
    · exact undisturbed_told _ _
  · exact undisturbed
  · exact undisturbed

theorem step_undisturbed (undisturbed : Undisturbed streams.heard) {move : Move ω σ}
    (other : ∀ id, move ≠ .unregister id) : Undisturbed (streams.step max move).heard := by
  cases move with
  | connect => exact undisturbed
  | send n bytes =>
      simp only [step, send]
      split <;> exact undisturbed
  | take n now => exact take_undisturbed undisturbed max n now
  | write n size =>
      simp only [step, write]
      split
      · exact undisturbed
      · split
        · exact undisturbed.append (undisturbed_dropped _)
        · split
          · exact undisturbed
          · exact undisturbed.append (undisturbed_dropped _)
  | event n =>
      simp only [step, event]
      split
      · split
        · exact undisturbed.append (by simp [Undisturbed])
        · exact undisturbed
        · exact undisturbed.append (undisturbed_dropped _)
      · exact undisturbed
  | leave n =>
      simp only [step, leave]
      split
      · exact undisturbed
      · exact undisturbed
      · exact undisturbed.append (undisturbed_dropped _)
  | unregister id => exact absurd rfl (other id)
  | announce event =>
      show Undisturbed ([_] ++ streams.heard)
      exact undisturbed.append (by simp [Undisturbed])
  | change f => exact undisturbed

theorem run_undisturbed (undisturbed : Undisturbed streams.heard) {moves : List (Move ω σ)}
    (others : ∀ id, .unregister id ∉ moves) : Undisturbed (streams.run max moves).heard := by
  induction moves generalizing streams with
  | nil => exact undisturbed
  | cons move moves ih =>
      refine ih (step_undisturbed undisturbed ?_) fun id member => others id (List.mem_cons_of_mem _ member)
      rintro id rfl
      exact others id List.mem_cons_self

/-- Whatever connections do, whoever else broadcasts, and wherever a write breaks off, a connection whose stream
was opened has written, since its acknowledgement, one frame for each of the first events of its queue, in the
order in which they were broadcast; all of them if the queue was closed. The subscription was there before the
acknowledgement was written. The request for it was the last frame that was decoded, and nothing behind it ever
will be. When the stream has ended, for whatever reason, the subscription is gone: there are as many as there are
streams between their opening and their end, apart from those whose queue someone has closed. -/
theorem subscriptions_served (max : Nat) {daemon : Daemon ω σ} (fresh : daemon.hub = Hub.empty) (ids : IdSource)
    (moves : List (Move ω σ)) :
    ∃ streams, (start daemon ids).run max moves = streams ∧
      (∀ n id, (streams.lines n).stream = some id →
        (Hub.admitted id streams.heard).Sublist (Hub.broadcasts streams.heard) ∧
        (∀ count past, (streams.lines n).acknowledged = some (count, past) →
          ∃ events, (streams.lines n).Sent streams.heard id count past events ∧
            (streams.lines n).Left streams.heard id events) ∧
        (∃ earlier payload whole rest, (streams.lines n).treated = earlier ++ [payload] ∧ Subscribes payload ∧
          (∀ payload ∈ earlier, ¬ Subscribes payload) ∧ Frame.Written max (earlier ++ [payload]) whole ∧
          (streams.lines n).received = whole ++ rest) ∧
        (∀ more, ((streams.run max more).lines n).treated = (streams.lines n).treated) ∧
        ((streams.lines n).isOpen = false → streams.daemon.hub.find? id = none)) ∧
      streams.daemon.hub.count = (streams.openLines.filter streams.served).length ∧
      ((∀ id, .unregister id ∉ moves) → streams.daemon.hub.count = streams.openLines.length) := by
  have sound := (sound_start max fresh ids).run moves
  refine ⟨_, rfl, ?lines, sound.count_eq, ?exact⟩
  case lines =>
    intro n id opened
    have standing := sound.ran.hub_eq.2 id
    refine ⟨Hub.admitted_sublist id _, fun count past told => (sound.stands n).sent standing opened told, ?_,
      fun more => sound.run_treated opened more, ?_⟩
    · obtain ⟨earlier, payload, treated, subscribes, before⟩ := (sound.dealt n).last id opened
      obtain ⟨whole, written, ⟨rest, cut⟩, _⟩ := (sound.dealt n).cut
      exact ⟨earlier, payload, whole, rest, treated, subscribes, before, treated ▸ written, cut.symm⟩
    · intro ended
      have gone := ((sound.stands n).open_eq opened).symm.trans ended
      rw [sound.ran.hub_eq.1, Hub.find_after standing, gone]
      rfl
  case exact =>
    intro others
    rw [sound.count_eq, List.filter_eq_self.mpr]
    intro n member
    obtain ⟨id, opened, held⟩ := sound.mem_open.mp member
    rw [served, opened, Option.any_some, sound.ran.is_registered, attends_eq (run_undisturbed undisturbed_nil others)]
    exact held

end

-- The bytes of a frame that asks for a subscription.
def subscribing : Bytes :=
  [27, 0, 0, 0, 123, 34, 116, 121, 112, 101, 34, 58, 34, 115, 117, 98, 115, 99, 114, 105, 98, 101, 95, 101, 118, 101,
    110, 116, 115, 34, 125]

-- The second of two connections asks for a subscription, a change is broadcast before it is told that it has one,
-- and more bytes of it arrive. It is told then, another change is broadcast, and the first of the two is written.
def early : List (Move Rat Unit) :=
  [.connect, .connect, .send 1 subscribing, .take 1 5, .announce (some ⟨"v", [], 7⟩), .send 1 subscribing, .take 1 6,
    .write 1 1000, .announce (some ⟨"w", [], 8⟩), .event 1, .write 1 1000]

theorem subscriptions_served_early :
    Daemon.newcomer.hub = Hub.empty ∧ (∀ id, .unregister id ∉ early) ∧
      ∃ streams past, (start Daemon.newcomer {}).run 1000 early = streams ∧ (streams.lines 1).stream = some 0 ∧
        Hub.admitted 0 streams.heard = [⟨"v", [], 7⟩, ⟨"w", [], 8⟩] ∧
        (streams.lines 1).acknowledged = some (1, past) ∧
        (streams.lines 1).Sent streams.heard 0 1 past [⟨"v", [], 7⟩] ∧
        (streams.lines 1).Left streams.heard 0 [⟨"v", [], 7⟩] ∧
        (∀ more, ((streams.run 1000 more).lines 1).treated = [subscribing.drop 4]) ∧
        streams.openLines = [1] ∧ streams.daemon.hub.count = 1 := by
  have fresh : Daemon.newcomer.hub = Hub.empty := rfl
  have plain : ∀ id, .unregister id ∉ early := by simp [early]
  obtain ⟨streams, same, lines, _, exact⟩ := subscriptions_served 1000 fresh {} early
  have opened : (streams.lines 1).stream = some 0 := by subst same; decide +kernel
  have treated : (streams.lines 1).treated = [subscribing.drop 4] := by subst same; decide +kernel
  have lasting : streams.openLines = [1] := by subst same; decide +kernel
  have queued : Hub.admitted 0 streams.heard = [⟨"v", [], 7⟩, ⟨"w", [], 8⟩] := by subst same; decide +kernel
  have told : (streams.lines 1).acknowledged.map Prod.fst = some 1 := by subst same; decide +kernel
  have written : ((streams.lines 1).connection.written.drop 1).length = 1 := by subst same; decide +kernel
  obtain ⟨⟨_, past⟩, acknowledged, rfl⟩ := Option.map_eq_some_iff.mp told
  obtain ⟨_, served, _, never, _⟩ := lines 1 0 opened
  obtain ⟨events, sent, left⟩ := served 1 past acknowledged
  have first : events = [⟨"v", [], 7⟩] := by
    rw [List.prefix_iff_eq_take.mp left.first, queued, ← sent.framed.length_eq, written]
    rfl
  rw [first] at sent left
  refine ⟨fresh, plain, streams, past, same, opened, queued, acknowledged, sent, left,
    fun more => (never more).trans treated, lasting, ?_⟩
  rw [exact plain, lasting]
  rfl

end Streams

end Bookmarks
