import Bookmarks.Proofs.Hub.History
import Mathlib.Data.List.Nodup

/-!
The queues of a hub do not depend on each other. What a subscriber reads is decided by the broadcasts and
by what it does itself (`Ran.lone_eq`), and a report counts those who had room and those who had none.
-/
set_option autoImplicit false

namespace Bookmarks.Hub

variable {β : Type} {past : History β} {hub : Hub β} {id : Nat}

-- The ids that were handed out.
def ids : History β → List Nat
  | [] => []
  | .registered id :: past => id :: ids past
  | _ :: past => ids past

theorem Ran.ids_eq (ran : Ran past hub) : ids past = (List.range (registrations past)).reverse := by
  induction ran with
  | start => rfl
  | @visit past hub ran visit ih =>
      obtain ⟨rfl, _⟩ := ran.hub_eq
      cases visit with
      | register =>
          have all := List.range_succ (n := registrations past)
          show registrations past :: ids past = (List.range (registrations past + 1)).reverse
          rw [all, List.reverse_append, ih]
          rfl
      | unregister gone => exact ih
      | drop gone => exact ih
      | receive reader => exact ih
  | broadcast ran event ih => exact ih

theorem Ran.mem_ids (ran : Ran past hub) : id ∈ ids past ↔ id < registrations past := by
  rw [ran.ids_eq, List.mem_reverse, List.mem_range]

theorem Ran.ids_nodup (ran : Ran past hub) : (ids past).Nodup := by
  rw [ran.ids_eq]
  exact List.nodup_reverse.mpr List.nodup_range

theorem Ran.register_fresh (ran : Ran past hub) : hub.register.1 ∉ ids past := by
  rw [ran.mem_ids, ran.hub_eq.1]
  exact Nat.lt_irrefl _

theorem admitted_sublist (id : Nat) (past : History β) : (admitted id past).Sublist (broadcasts past) := by
  induction past with
  | nil => exact List.Sublist.refl []
  | cons entry past ih =>
      cases entry with
      | registered new => exact ih
      | unregistered gone => exact ih
      | dropped gone => exact ih
      | received reader answer => exact ih
      | broadcast event report =>
          cases event with
          | none => exact ih
          | some event =>
              simp only [admitted, broadcasts]
              split
              · exact ih.append (List.Sublist.refl _)
              · exact ih.trans (List.sublist_append_left _ _)

-- The registered ones among the subscriptions, counted by what the history says of them.
theorem Ran.count_registered (ran : Ran past hub) (chosen : Subscription β → Bool) :
    ((hub.subscriptions.filter (·.registered)).filter chosen).length =
      ((ids past).filter fun id => attends id past && chosen (queueOf past id)).length := by
  obtain ⟨same, standing⟩ := ran.hub_eq
  rw [ran.ids_eq, List.filter_reverse, List.length_reverse, same]
  simp only [after, List.filter_map, List.filter_filter, List.length_map]
  congr 1
  apply List.filter_congr
  intro id _
  cases attending : attends id past with
  | false => simp [queueOf, attending]
  | true => simp [queueOf, attending, (standing id).held attending]

theorem Ran.report (ran : Ran past hub) (event : β) :
    (hub.broadcast event).1.delivered + (hub.broadcast event).1.dropped =
        ((ids past).filter (attends · past)).length ∧
      (hub.broadcast event).1.dropped =
        ((ids past).filter fun id => attends id past && (unread id past).length == queueCapacity).length := by
  have standing := ran.hub_eq.2
  have room := ran.count_registered hasRoom
  have none := ran.count_registered (!hasRoom ·)
  have full : ∀ id, (!hasRoom (queueOf past id)) = ((unread id past).length == queueCapacity) := by
    intro id
    have bounded := (standing id).bounded
    by_cases short : (unread id past).length < queueCapacity
    · have different : (unread id past).length ≠ queueCapacity := Nat.ne_of_lt short
      simp [hasRoom, queueOf, short, different]
    · have equal : (unread id past).length = queueCapacity := Nat.le_antisymm bounded (Nat.le_of_not_lt short)
      simp [hasRoom, queueOf, equal]
  constructor
  · have all := ran.count_registered fun _ => true
    simp only [List.filter_true, Bool.and_true] at all
    have parts := (hub.subscriptions.filter (·.registered)).length_eq_length_filter_add hasRoom
    exact parts.symm.trans all
  · exact none.trans (by simp only [full])

-- What concerns one subscriber: the broadcasts, and what it does itself.
inductive Turn (β : Type) where
  | broadcast (event : Option β)
  | unregister
  | drop
  | receive

-- The turns of a subscriber since it was registered, the latest first.
def turns (id : Nat) : History β → List (Turn β)
  | [] => []
  | .registered new :: past => if new = id then [] else turns id past
  | .unregistered gone :: past => if gone = id then .unregister :: turns id past else turns id past
  | .dropped gone :: past => if gone = id then .drop :: turns id past else turns id past
  | .received reader _ :: past => if reader = id then .receive :: turns id past else turns id past
  | .broadcast event _ :: past => .broadcast event :: turns id past

-- What became of one queue that stands alone.
structure Lone (β : Type) where
  held : Bool
  attending : Bool
  admitted : List β
  read : List β

def Lone.unread (lone : Lone β) : List β := lone.admitted.drop lone.read.length

def Lone.turn (lone : Lone β) : Turn β → Lone β
  | .broadcast none => lone
  | .broadcast (some event) =>
    if lone.attending = true ∧ lone.unread.length < queueCapacity then
      { lone with admitted := lone.admitted ++ [event] }
    else lone
  | .unregister => { lone with attending := false }
  | .drop => { lone with held := false, attending := false }
  | .receive => if lone.held then { lone with read := lone.read ++ lone.unread.take 1 } else lone

def Lone.after : List (Turn β) → Lone β
  | [] => ⟨true, true, [], []⟩
  | turn :: earlier => (Lone.after earlier).turn turn

def loneOf (id : Nat) (past : History β) : Lone β := ⟨holds id past, attends id past, admitted id past, readBy id past⟩

theorem lone_received (id : Nat) (past : History β) :
    loneOf id (.received id (next id past) :: past) = (loneOf id past).turn .receive := by
  cases held : holds id past with
  | false =>
      have answer : next id past = .closed := by simp [next, held]
      simp [answer, loneOf, Lone.turn, holds, attends, admitted, readBy, held]
  | true =>
      cases left : unread id past with
      | nil =>
          have answer : next id past = .waiting ∨ next id past = .closed := by
            cases attending : attends id past <;> simp [next, held, left, attending]
          have nothing : (loneOf id past).unread = [] := left
          rcases answer with answer | answer <;>
            simp [answer, Lone.turn, nothing] <;>
            simp [loneOf, holds, attends, admitted, readBy, held]
      | cons event rest =>
          have answer : next id past = .event event := by simp [next, held, left]
          have first : (loneOf id past).unread = event :: rest := left
          simp [answer, Lone.turn, first]
          simp [loneOf, holds, attends, admitted, readBy, held]

-- The neighbours of a queue make no difference to it.
theorem Ran.lone_eq (ran : Ran past hub) (known : id ∈ ids past) : loneOf id past = Lone.after (turns id past) := by
  induction ran with
  | start => cases known
  | @visit past hub ran visit ih =>
      obtain ⟨rfl, standing⟩ := ran.hub_eq
      cases visit with
      | register =>
          show loneOf id (.registered (registrations past) :: past) =
            Lone.after (if registrations past = id then [] else turns id past)
          by_cases new : registrations past = id
          · have blank := (standing id).blank (Nat.le_of_eq new)
            have read := ((standing id).blank_read (Nat.le_of_eq new)).1
            simp [loneOf, holds, attends, admitted, readBy, new, blank, read, Lone.after]
          · have older : id ∈ ids past := by
              rcases List.mem_cons.mp known with here | there
              · exact absurd here.symm new
              · exact there
            rw [if_neg new, ← ih older]
            simp [loneOf, holds, attends, admitted, readBy, new]
      | unregister gone =>
          show loneOf id (.unregistered gone :: past) =
            Lone.after (if gone = id then .unregister :: turns id past else turns id past)
          have earlier := ih known
          by_cases here : gone = id
          · rw [if_pos here, Lone.after, ← earlier]
            simp [loneOf, holds, attends, admitted, readBy, here, Lone.turn]
          · rw [if_neg here, ← earlier]
            simp [loneOf, holds, attends, admitted, readBy, here]
      | drop gone =>
          show loneOf id (.dropped gone :: past) =
            Lone.after (if gone = id then .drop :: turns id past else turns id past)
          have earlier := ih known
          by_cases here : gone = id
          · rw [if_pos here, Lone.after, ← earlier]
            simp [loneOf, holds, attends, admitted, readBy, here, Lone.turn]
          · rw [if_neg here, ← earlier]
            simp [loneOf, holds, attends, admitted, readBy, here]
      | receive reader =>
          simp only [Hub.visit, receive_after standing]
          show loneOf id (.received reader (next reader past) :: past) =
            Lone.after (if reader = id then .receive :: turns id past else turns id past)
          have earlier := ih known
          by_cases here : reader = id
          · subst here
            rw [if_pos rfl, Lone.after, ← earlier]
            exact lone_received reader past
          · rw [if_neg here, ← earlier]
            cases next reader past <;> simp [loneOf, holds, attends, admitted, readBy, here]
  | @broadcast past hub ran event ih =>
      have earlier := ih known
      have standing := ran.hub_eq.2 id
      show _ = (Lone.after (turns id past)).turn (.broadcast event)
      rw [← earlier]
      cases event with
      | none => rfl
      | some event =>
          have grown := admitted_broadcast standing event (hub.broadcastWritten (some event)).1
          simp only [loneOf, Lone.turn, holds, attends, readBy, grown]
          split
          · rename_i offered
            exact (if_pos offered).symm
          · rename_i offered
            exact (if_neg offered).symm

-- Asks for the next event again and again.
def receiveMany (hub : Hub β) (id : Nat) : Nat → List (Received β)
  | 0 => []
  | more + 1 => (hub.receive id).1 :: (hub.receive id).2.receiveMany id more

theorem Ran.receive_eq (ran : Ran past hub) (id : Nat) : (hub.receive id).1 = next id past := by
  obtain ⟨rfl, standing⟩ := ran.hub_eq
  rw [receive_after standing]

-- A queue that was closed is read to its end.
theorem Ran.receive_closed (ran : Ran past hub) (held : holds id past = true) (closed : attends id past = false)
    {events : List β} (left : unread id past = events) (count : Nat) :
    hub.receiveMany id (events.length + count) = events.map .event ++ List.replicate count .closed := by
  induction events generalizing past hub with
  | nil =>
      have answer : next id past = .closed := by simp [next, held, left, closed]
      have still : hub.receive id = (.closed, hub) := by
        obtain ⟨rfl, standing⟩ := ran.hub_eq
        rw [receive_after standing, answer]
        rfl
      rw [List.length_nil, Nat.zero_add]
      induction count with
      | zero => rfl
      | succ count ih =>
          rw [receiveMany, still, ih]
          rfl
  | cons event rest ih =>
      have answer : next id past = .event event := by simp [next, held, left]
      have later := ran.visit (.receive id)
      have shorter := unread_received (ran.hub_eq.2 id) left
      simp only [Hub.visit, ran.receive_eq, answer] at later
      rw [List.length_cons, Nat.add_right_comm, receiveMany, ran.receive_eq, answer, ih later held closed shorter]
      rfl

theorem find_change_other (hub : Hub β) {id other : Nat} (different : other ≠ id) {f : Subscription β → Subscription β}
    (named : ∀ s, (f s).id = s.id) : (hub.change id f).find? other = hub.find? other := by
  have same : ((fun s : Subscription β => decide (s.id = other)) ∘ fun s => if s.id = id then f s else s) =
      fun s => decide (s.id = other) := by
    funext s
    by_cases here : s.id = id <;> simp [here, named]
  simp only [find?, change, List.find?_map, same]
  cases found : hub.subscriptions.find? fun s => decide (s.id = other) with
  | none => rfl
  | some s =>
      have named : s.id = other := by simpa using List.find?_some found
      have elsewhere : s.id ≠ id := fun here => different (named.symm.trans here)
      simp [elsewhere]

theorem find_drop_other (hub : Hub β) {id other : Nat} (different : other ≠ id) :
    (hub.drop id).find? other = hub.find? other := by
  simp only [find?, drop, List.find?_filter]
  congr 1
  funext s
  by_cases here : s.id = other <;> simp [here, different]

theorem Ran.queue_eq (ran : Ran past hub) {s : Subscription β} (member : s ∈ hub.subscriptions) :
    s = queueOf past s.id ∧ holds s.id past = true := by
  obtain ⟨rfl, _⟩ := ran.hub_eq
  obtain ⟨id, kept, rfl⟩ := List.mem_map.mp member
  exact ⟨rfl, (List.mem_filter.mp kept).2⟩

theorem find_change_self (hub : Hub β) (id : Nat) {f : Subscription β → Subscription β} (named : ∀ s, (f s).id = s.id) :
    (hub.change id f).find? id = (hub.find? id).map f := by
  have same : ((fun s : Subscription β => decide (s.id = id)) ∘ fun s => if s.id = id then f s else s) =
      fun s => decide (s.id = id) := by
    funext s
    by_cases here : s.id = id <;> simp [here, named]
  simp only [find?, change, List.find?_map, same]
  cases found : hub.subscriptions.find? fun s => decide (s.id = id) with
  | none => rfl
  | some s =>
      have here : s.id = id := by simpa using List.find?_some found
      simp [here]

theorem change_change (hub : Hub β) (id : Nat) {f g : Subscription β → Subscription β} (named : ∀ s, (f s).id = s.id) :
    (hub.change id f).change id g = hub.change id (g ∘ f) := by
  simp only [change, List.map_map]
  congr 1
  apply List.map_congr_left
  intro s _
  by_cases here : s.id = id <;> simp [here, named]

theorem Ran.find_eq (ran : Ran past hub) (held : holds id past = true) : hub.find? id = some (queueOf past id) := by
  obtain ⟨rfl, standing⟩ := ran.hub_eq
  rw [find_after (standing id), if_pos held]

theorem Ran.is_registered (ran : Ran past hub) : hub.isRegistered id = attends id past := by
  obtain ⟨rfl, standing⟩ := ran.hub_eq
  rw [isRegistered, find_after (standing id)]
  cases attending : attends id past with
  | true => simp [(standing id).held attending, queueOf, attending]
  | false => cases holds id past <;> simp [queueOf, attending]

-- What is taken all at once is what is taken one by one.
theorem Ran.drain_nil (ran : Ran past hub) (held : holds id past = true) (none : unread id past = []) :
    hub.drain id = ([], hub) := by
  have same : ∀ s ∈ hub.subscriptions, (if s.id = id then { s with unread := [] } else s) = s := by
    intro s member
    split
    · rename_i here
      rw [(ran.queue_eq member).1, here, queueOf, none]
    · rfl
  have left : (queueOf past id).unread = [] := none
  simp only [drain, ran.find_eq held, left, change]
  rw [List.map_congr_left same, List.map_id']

theorem Ran.receive_cons (ran : Ran past hub) (held : holds id past = true) {event : β} {rest : List β}
    (left : unread id past = event :: rest) :
    hub.receive id = (.event event, hub.change id fun s => { s with unread := rest }) := by
  have first : (queueOf past id).unread = event :: rest := left
  simp only [receive, ran.find_eq held, first]

theorem Ran.drain_cons (ran : Ran past hub) (held : holds id past = true) {event : β} {rest : List β}
    (left : unread id past = event :: rest) :
    hub.drain id = (event :: ((hub.receive id).2.drain id).1, ((hub.receive id).2.drain id).2) := by
  have first : (queueOf past id).unread = event :: rest := left
  have found : (hub.change id fun s => { s with unread := rest }).find? id =
      some { queueOf past id with unread := rest } := by
    rw [find_change_self, ran.find_eq held]
    · rfl
    · exact fun _ => rfl
  have emptied : ((hub.change id fun s => { s with unread := rest }).change id fun s => { s with unread := [] }) =
      hub.change id fun s => { s with unread := [] } := by
    rw [change_change]
    · rfl
    · exact fun _ => rfl
  rw [ran.receive_cons held left]
  simp only [drain, ran.find_eq held, first, found, emptied]

theorem Ran.unregister_gone (ran : Ran past hub) (gone : attends id past = false) : hub.unregister id = hub := by
  have same : ∀ s ∈ hub.subscriptions, (if s.id = id then { s with registered := false } else s) = s := by
    intro s member
    split
    · rename_i here
      rw [(ran.queue_eq member).1, here, queueOf, gone]
    · rfl
  simp only [unregister, change]
  rw [List.map_congr_left same, List.map_id']

theorem Ran.drop_gone (ran : Ran past hub) (gone : holds id past = false) : hub.drop id = hub := by
  have others : ∀ s ∈ hub.subscriptions, s.id ≠ id := by
    rintro s member rfl
    rw [(ran.queue_eq member).2] at gone
    cases gone
  simp only [drop]
  rw [List.filter_eq_self.mpr (by simpa using others)]

-- The history goes on, and the owner of this subscription has no part in it.
structure Apart (id : Nat) (past later : History β) : Prop where
  held : holds id later = holds id past
  read : readBy id later = readBy id past
  queued : admitted id past <+: admitted id later
  gone : holds id past = false → admitted id later = admitted id past

theorem Apart.refl (id : Nat) (past : History β) : Apart id past past :=
  ⟨rfl, rfl, List.prefix_refl _, fun _ => rfl⟩

theorem Apart.trans {between later : History β} (first : Apart id past between) (second : Apart id between later) :
    Apart id past later where
  held := second.held.trans first.held
  read := second.read.trans first.read
  queued := first.queued.trans second.queued
  gone := fun gone => (second.gone (first.held.trans gone)).trans (first.gone gone)

theorem apart_of_eq {later : History β} (held : holds id later = holds id past)
    (read : readBy id later = readBy id past)
    (queued : admitted id later = admitted id past) : Apart id past later :=
  ⟨held, read, queued ▸ List.prefix_refl _, fun _ => queued⟩

theorem apart_registered {new : Nat} (other : new ≠ id) : Apart id past (.registered new :: past) :=
  apart_of_eq (by simp [holds, other]) rfl rfl

theorem apart_unregistered (gone : Nat) : Apart id past (.unregistered gone :: past) := apart_of_eq rfl rfl rfl

theorem apart_dropped {gone : Nat} (other : gone ≠ id) : Apart id past (.dropped gone :: past) :=
  apart_of_eq (by simp [holds, other]) rfl rfl

theorem apart_received {reader : Nat} (other : reader ≠ id) (event : β) :
    Apart id past (.received reader (.event event) :: past) := apart_of_eq rfl (if_neg other) rfl

theorem apart_broadcast (standing : Standing past id) (event : Option β) (report : Delivery) :
    Apart id past (.broadcast event report :: past) := by
  cases event with
  | none => exact apart_of_eq rfl rfl rfl
  | some event =>
      have queued := admitted_broadcast standing event report
      refine ⟨rfl, rfl, ?_, ?_⟩
      · rw [queued]
        split
        · exact List.prefix_append _ _
        · exact List.prefix_refl _
      · intro gone
        rw [queued, if_neg]
        intro offered
        rw [standing.held offered.1] at gone
        cases gone

-- Two subscribers, in one run or in two, that saw the same turns.
theorem Ran.same_turns {past' : History β} {hub' : Hub β} {id' : Nat} (ran : Ran past hub) (ran' : Ran past' hub')
    (known : id ∈ ids past) (known' : id' ∈ ids past') (same : turns id past = turns id' past') :
    readBy id past = readBy id' past' ∧ (hub.receive id).1 = (hub'.receive id').1 := by
  have equal : loneOf id past = loneOf id' past' := by rw [ran.lone_eq known, ran'.lone_eq known', same]
  obtain ⟨held, attending, admitted, read⟩ := Lone.mk.inj equal
  refine ⟨read, ?_⟩
  rw [ran.receive_eq, ran'.receive_eq, next, next, held, attending, unread, unread, admitted, read]

/-- Each subscriber has a queue of its own. It reads in order what was broadcast while it was registered
and fewer than sixteen events were unread, and once it is unregistered it reads the rest and then finds
the queue closed. A report counts those who had room and those who had none; an event that cannot be
written is given to nobody. An id is handed out once, and one that is gone stands for nothing. So a
subscriber reads the same whatever the others do. -/
theorem independent_queues :
    (∀ (past : History β) (hub : Hub β), Ran past hub →
      (∀ id, admitted id past = readBy id past ++ unread id past ∧ (unread id past).length ≤ queueCapacity ∧
        (admitted id past).Sublist (broadcasts past) ∧ (hub.receive id).1 = next id past) ∧
      (∀ id count, holds id past = true →
        (hub.unregister id).receiveMany id ((unread id past).length + count) =
          (unread id past).map .event ++ List.replicate count .closed) ∧
      (∀ event, (hub.broadcastWritten (some event)).1.delivered + (hub.broadcastWritten (some event)).1.dropped =
          ((ids past).filter (attends · past)).length ∧
        (hub.broadcastWritten (some event)).1.dropped =
          ((ids past).filter fun id => attends id past && (unread id past).length == queueCapacity).length) ∧
      hub.broadcastWritten none = (⟨0, 0⟩, hub) ∧
      (∀ id other, other ≠ id →
        (hub.unregister id).find? other = hub.find? other ∧ (hub.drop id).find? other = hub.find? other) ∧
      (∀ id, attends id past = false → hub.unregister id = hub) ∧
      (∀ id, holds id past = false → hub.drop id = hub) ∧
      (ids past).Nodup ∧ hub.register.1 ∉ ids past) ∧
    ∀ (past past' : History β) (hub hub' : Hub β) (id id' : Nat), Ran past hub → Ran past' hub' →
      id ∈ ids past → id' ∈ ids past' → turns id past = turns id' past' →
      readBy id past = readBy id' past' ∧ (hub.receive id).1 = (hub'.receive id').1 := by
  refine ⟨?_, fun _ _ _ _ _ _ ran ran' known known' same => ran.same_turns ran' known known' same⟩
  intro past hub ran
  have standing := ran.hub_eq.2
  refine ⟨?_, ?_, ran.report, rfl, ?_, fun _ => ran.unregister_gone, fun _ => ran.drop_gone, ran.ids_nodup,
    ran.register_fresh⟩
  · intro id
    exact ⟨(standing id).read, (standing id).bounded, admitted_sublist id past, ran.receive_eq id⟩
  · intro id count held
    have closed : attends id (.unregistered id :: past) = false := by simp [attends]
    exact (ran.visit (.unregister id)).receive_closed held closed rfl count
  · intro id other different
    exact ⟨find_change_other hub different fun _ => rfl, find_drop_other hub different⟩

-- A subscriber that is alone, and one whose neighbour was there before it and has been dropped.
theorem independent_queues_neighbour :
    ∃ (past past' : History Nat) (hub hub' : Hub Nat), Ran past hub ∧ Ran past' hub' ∧
      ids past = [0] ∧ ids past' = [1, 0] ∧
      (hub.broadcastWritten (some 8)).1.delivered + (hub.broadcastWritten (some 8)).1.dropped = 1 ∧
      (hub.receive 0).1 = .event 7 ∧ (hub'.receive 1).1 = (hub.receive 0).1 := by
  have alone := ((Ran.start (β := Nat)).visit .register).broadcast (some 7)
  have two := ((((Ran.start (β := Nat)).visit .register).visit .register).broadcast (some 7)).visit (.drop 0)
  have report := (independent_queues.1 _ _ alone).2.2.1 8
  have same := independent_queues.2 _ _ _ _ 0 1 alone two (by decide) (by decide) rfl
  exact ⟨_, _, _, _, alone, two, rfl, rfl, report.1, rfl, same.2.symm⟩

-- A report does not count the subscribers of an event that cannot be written.
theorem unwritten_not_counted :
    ¬ ∀ (past : History Nat) (hub : Hub Nat), Ran past hub → ∀ event : Option Nat,
      (hub.broadcastWritten event).1.delivered + (hub.broadcastWritten event).1.dropped =
        ((ids past).filter (attends · past)).length := by
  intro counted
  have report := counted _ _ ((Ran.start (β := Nat)).visit .register) none
  cases report

end Bookmarks.Hub
