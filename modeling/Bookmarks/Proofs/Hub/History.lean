import Bookmarks.Hub

/-!
What has been done with a hub, and what each subscriber has had of it. The history alone tells what is in
the hub (`Ran.hub_eq`): for each subscriber the events that were admitted to its queue and not yet read.
-/
set_option autoImplicit false

namespace Bookmarks.Hub

variable {β : Type}

-- What subscribers do.
inductive Visit where
  | register
  | unregister (id : Nat)
  | drop (id : Nat)
  | receive (id : Nat)
deriving DecidableEq, Repr

-- What was done, and what was answered. An event that cannot be written is none.
inductive Entry (β : Type) where
  | registered (id : Nat)
  | unregistered (id : Nat)
  | dropped (id : Nat)
  | received (id : Nat) (answer : Received β)
  | broadcast (event : Option β) (report : Delivery)

-- The latest entry comes first.
abbrev History (β : Type) := List (Entry β)

def visit (hub : Hub β) : Visit → Entry β × Hub β
  | .register => (.registered hub.register.1, hub.register.2)
  | .unregister id => (.unregistered id, hub.unregister id)
  | .drop id => (.dropped id, hub.drop id)
  | .receive id => (.received id (hub.receive id).1, (hub.receive id).2)

-- Any steps one after another, and the hub that they lead to.
inductive Ran : History β → Hub β → Prop
  | start : Ran [] Hub.empty
  | visit {past : History β} {hub : Hub β} (ran : Ran past hub) (visit : Visit) :
      Ran ((hub.visit visit).1 :: past) (hub.visit visit).2
  | broadcast {past : History β} {hub : Hub β} (ran : Ran past hub) (event : Option β) :
      Ran (.broadcast event (hub.broadcastWritten event).1 :: past) (hub.broadcastWritten event).2

def registrations : History β → Nat
  | [] => 0
  | .registered _ :: past => registrations past + 1
  | _ :: past => registrations past

-- The subscription has been handed out and not been dropped.
def holds (id : Nat) : History β → Bool
  | [] => false
  | .registered new :: past => new == id || holds id past
  | .dropped gone :: past => gone != id && holds id past
  | _ :: past => holds id past

-- It has not been unregistered, either.
def attends (id : Nat) : History β → Bool
  | [] => false
  | .registered new :: past => new == id || attends id past
  | .unregistered gone :: past => gone != id && attends id past
  | .dropped gone :: past => gone != id && attends id past
  | _ :: past => attends id past

def broadcasts : History β → List β
  | [] => []
  | .broadcast (some event) _ :: past => broadcasts past ++ [event]
  | _ :: past => broadcasts past

def readBy (id : Nat) : History β → List β
  | [] => []
  | .received reader (.event event) :: past =>
    if reader = id then readBy id past ++ [event] else readBy id past
  | _ :: past => readBy id past

-- The events that were broadcast while the subscriber was registered and had room for them.
def admitted (id : Nat) : History β → List β
  | [] => []
  | .broadcast (some event) _ :: past =>
    if attends id past = true ∧ (admitted id past).length < (readBy id past).length + queueCapacity then
      admitted id past ++ [event]
    else admitted id past
  | _ :: past => admitted id past

def unread (id : Nat) (past : History β) : List β := (admitted id past).drop (readBy id past).length

def queueOf (past : History β) (id : Nat) : Subscription β := ⟨id, attends id past, unread id past⟩

-- The hub as it has to be after a history.
def after (past : History β) : Hub β :=
  ⟨registrations past, ((List.range (registrations past)).filter (holds · past)).map (queueOf past)⟩

-- What a subscriber is answered that asks for its next event.
def next (id : Nat) (past : History β) : Received β :=
  match holds id past, unread id past with
  | false, _ => .closed
  | true, event :: _ => .event event
  | true, [] => if attends id past then .waiting else .closed

-- What holds of a subscriber at any time; one that is not yet there has had nothing.
structure Standing (past : History β) (id : Nat) : Prop where
  read : admitted id past = readBy id past ++ unread id past
  bounded : (unread id past).length ≤ queueCapacity
  held : attends id past = true → holds id past = true
  known : holds id past = true → id < registrations past
  blank : registrations past ≤ id → admitted id past = []

variable {past : History β} {hub : Hub β} {id : Nat}

theorem room_iff (standing : Standing past id) :
    (admitted id past).length < (readBy id past).length + queueCapacity ↔
      (unread id past).length < queueCapacity := by
  rw [standing.read, List.length_append]
  omega

theorem find_map_queue (past : History β) (ids : List Nat) (id : Nat) :
    (ids.map (queueOf past)).find? (·.id = id) = if id ∈ ids then some (queueOf past id) else none := by
  induction ids with
  | nil => simp
  | cons head rest ih =>
      by_cases here : head = id
      · subst here
        simp [queueOf]
      · have elsewhere : ¬ id = head := fun same => here same.symm
        rw [List.map_cons, List.find?_cons_of_neg (by simp [queueOf, here]), ih]
        simp [elsewhere]

theorem find_after (standing : Standing past id) :
    (after past).find? id = if holds id past then some (queueOf past id) else none := by
  have member : id ∈ (List.range (registrations past)).filter (holds · past) ↔ holds id past = true := by
    rw [List.mem_filter, List.mem_range]
    exact ⟨And.right, fun held => ⟨standing.known held, held⟩⟩
  rw [find?, after, find_map_queue]
  simp only [member]

-- Two histories that agree on a subscriber's standing agree on its queue.
theorem after_congr (newer past : History β) (count : registrations newer = registrations past)
    (held : ∀ id, holds id newer = holds id past) (f : Subscription β → Subscription β)
    (queue : ∀ id, holds id past = true → queueOf newer id = f (queueOf past id)) :
    after newer = ⟨registrations past, (after past).subscriptions.map f⟩ := by
  simp only [after, count, held, List.map_map]
  congr 1
  apply List.map_congr_left
  intro id member
  exact queue id (List.mem_filter.mp member).2

theorem Standing.blank_read (standing : Standing past id) (unknown : registrations past ≤ id) :
    readBy id past = [] ∧ unread id past = [] := by
  have nothing := standing.read
  rw [standing.blank unknown] at nothing
  exact List.append_eq_nil_iff.mp nothing.symm

theorem after_register (standing : ∀ id, Standing past id) :
    after (.registered (registrations past) :: past) = (after past).register.2 := by
  have blank := ((standing (registrations past)).blank_read (Nat.le_refl _)).2
  have fresh : queueOf (.registered (registrations past) :: past) (registrations past) =
      ⟨registrations past, true, []⟩ := by
    simpa [queueOf, attends, unread, admitted, readBy] using blank
  have others : ((List.range (registrations past)).filter
      (holds · (.registered (registrations past) :: past))).map (queueOf (.registered (registrations past) :: past)) =
      ((List.range (registrations past)).filter (holds · past)).map (queueOf past) := by
    have older : ∀ id ∈ List.range (registrations past), (registrations past == id) = false := by
      intro id member
      have below := List.mem_range.mp member
      simp only [beq_eq_false_iff_ne, ne_eq]
      omega
    rw [List.filter_congr fun id member => by rw [holds, older id member, Bool.false_or]]
    apply List.map_congr_left
    intro id member
    simp [queueOf, attends, unread, admitted, readBy, older id (List.mem_filter.mp member).1]
  have all := List.range_succ (n := registrations past)
  simp only [after, register, registrations, all, List.filter_append, List.map_append, others]
  simp [holds, fresh]

theorem after_unregister (gone : Nat) : after (.unregistered gone :: past) = (after past).unregister gone := by
  refine after_congr (.unregistered gone :: past) past rfl (fun _ => rfl) _ ?_
  intro id _
  by_cases here : id = gone
  · simp [queueOf, attends, unread, admitted, readBy, here]
  · have elsewhere : gone ≠ id := fun same => here same.symm
    simp [queueOf, attends, unread, admitted, readBy, here, elsewhere]

theorem after_drop (gone : Nat) : after (.dropped gone :: past) = (after past).drop gone := by
  simp only [after, drop, registrations, List.filter_map, List.filter_filter]
  congr 1
  have same : ∀ id ∈ List.range (registrations past), holds id (.dropped gone :: past) =
      (((fun s : Subscription β => decide (s.id ≠ gone)) ∘ queueOf past) id && holds id past) := by
    intro id _
    by_cases here : id = gone
    · simp [holds, queueOf, here]
    · have elsewhere : gone ≠ id := fun same => here same.symm
      simp [holds, queueOf, here, elsewhere]
  rw [List.filter_congr same]
  apply List.map_congr_left
  intro id member
  have stays : gone ≠ id := by
    intro here
    subst here
    simp [queueOf] at member
  simp [queueOf, attends, unread, admitted, readBy, stays]

theorem admitted_broadcast (standing : Standing past id) (event : β) (report : Delivery) :
    admitted id (.broadcast (some event) report :: past) =
      if attends id past = true ∧ (unread id past).length < queueCapacity then admitted id past ++ [event]
      else admitted id past := by
  simp only [admitted, room_iff standing]

theorem unread_broadcast (standing : Standing past id) (event : β) (report : Delivery) :
    unread id (.broadcast (some event) report :: past) =
      if attends id past = true ∧ (unread id past).length < queueCapacity then unread id past ++ [event]
      else unread id past := by
  have same : unread id (.broadcast (some event) report :: past) =
      (admitted id (.broadcast (some event) report :: past)).drop (readBy id past).length := rfl
  rw [same, admitted_broadcast standing]
  split
  · have behind : (readBy id past).length ≤ (admitted id past).length := by
      rw [standing.read, List.length_append]
      omega
    exact List.drop_append_of_le_length behind
  · rfl

theorem after_broadcast (standing : ∀ id, Standing past id) (event : β) (report : Delivery) :
    after (.broadcast (some event) report :: past) = ((after past).broadcast event).2 := by
  refine after_congr (.broadcast (some event) report :: past) past rfl (fun _ => rfl) (offer event) ?_
  intro id _
  have held := unread_broadcast (standing id) event report
  cases attending : attends id past with
  | false => simp [queueOf, attends, offer, held, attending]
  | true =>
      by_cases room : (unread id past).length < queueCapacity <;>
        simp [queueOf, attends, offer, hasRoom, held, attending, room]

-- A subscriber that is given an event has read it.
theorem unread_received {event : β} {rest : List β} (standing : Standing past id)
    (some : unread id past = event :: rest) : unread id (.received id (.event event) :: past) = rest := by
  have all := standing.read
  rw [some] at all
  show (admitted id past).drop (if id = id then readBy id past ++ [event] else readBy id past).length = rest
  rw [if_pos rfl, all]
  simp

theorem receive_after (standing : ∀ id, Standing past id) (id : Nat) :
    (after past).receive id = (next id past, after (.received id (next id past) :: past)) := by
  have found := find_after (standing id)
  cases held : holds id past with
  | false =>
      rw [held] at found
      have answer : next id past = .closed := by simp [next, held]
      rw [receive, found, answer]
      rfl
  | true =>
      rw [held] at found
      rw [receive, found]
      cases left : unread id past with
      | nil =>
          have answer : next id past = if attends id past then .waiting else .closed := by simp [next, held, left]
          have same : ∀ answer : Received β, (answer = .waiting ∨ answer = .closed) →
              after (.received id answer :: past) = after past := by
            rintro _ (rfl | rfl) <;> rfl
          simp only [if_true, queueOf, left, answer]
          cases attending : attends id past with
          | true => simp [same]
          | false => simp [same]
      | cons event rest =>
          have answer : next id past = .event event := by simp [next, held, left]
          simp only [if_true, queueOf, left, answer]
          congr 1
          refine (after_congr (.received id (.event event) :: past) past rfl (fun _ => rfl) _ ?_).symm
          intro other _
          by_cases here : other = id
          · subst here
            simp [queueOf, attends, unread_received (standing other) left]
          · have elsewhere : id ≠ other := fun same => here same.symm
            simp [queueOf, attends, here, unread, admitted, readBy, elsewhere]

theorem Standing.register (standing : Standing past id) : Standing (.registered (registrations past) :: past) id where
  read := standing.read
  bounded := standing.bounded
  held := by
    simp only [attends, holds, Bool.or_eq_true]
    exact Or.imp_right standing.held
  known := by
    simp only [holds, registrations, Bool.or_eq_true, beq_iff_eq]
    rintro (new | held)
    · omega
    · exact Nat.lt_succ_of_lt (standing.known held)
  blank := fun unknown => standing.blank (Nat.le_of_succ_le unknown)

theorem Standing.unregister (standing : Standing past id) (gone : Nat) : Standing (.unregistered gone :: past) id where
  read := standing.read
  bounded := standing.bounded
  held := by
    simp only [attends, holds, Bool.and_eq_true]
    exact fun attending => standing.held attending.2
  known := standing.known
  blank := standing.blank

theorem Standing.drop (standing : Standing past id) (gone : Nat) : Standing (.dropped gone :: past) id where
  read := standing.read
  bounded := standing.bounded
  held := by
    simp only [attends, holds, Bool.and_eq_true]
    exact And.imp_right standing.held
  known := by
    simp only [holds, registrations, Bool.and_eq_true]
    exact fun held => standing.known held.2
  blank := standing.blank

theorem Standing.broadcast (standing : Standing past id) (event : Option β) (report : Delivery) :
    Standing (.broadcast event report :: past) id := by
  cases event with
  | none => exact ⟨standing.read, standing.bounded, standing.held, standing.known, standing.blank⟩
  | some event =>
      refine ⟨?_, ?_, standing.held, standing.known, ?_⟩
      · rw [admitted_broadcast standing, unread_broadcast standing]
        split
        · rw [standing.read, List.append_assoc]
          rfl
        · exact standing.read
      · rw [unread_broadcast standing]
        split
        · rename_i offered
          rw [List.length_append]
          exact offered.2
        · exact standing.bounded
      · intro unknown
        have absent : ¬ attends id past = true := by
          intro attending
          have known := standing.known (standing.held attending)
          simp only [registrations] at unknown
          omega
        rw [admitted_broadcast standing, if_neg fun offered => absent offered.1]
        exact standing.blank unknown

theorem Standing.receive (standing : Standing past id) (other : Nat) :
    Standing (.received other (next other past) :: past) id := by
  by_cases gives : other = id ∧ ∃ event rest, holds id past = true ∧ unread id past = event :: rest
  · obtain ⟨rfl, event, rest, held, left⟩ := gives
    have answer : next other past = .event event := by simp [next, held, left]
    have shorter := unread_received standing left
    rw [answer]
    refine ⟨?_, ?_, standing.held, standing.known, standing.blank⟩
    · have all := standing.read
      rw [left] at all
      rw [shorter]
      show admitted other past = (if other = other then readBy other past ++ [event] else readBy other past) ++ rest
      rw [if_pos rfl, all, List.append_assoc]
      rfl
    · have bounded := standing.bounded
      rw [left] at bounded
      rw [shorter]
      exact Nat.le_of_succ_le bounded
  · have same : readBy id (.received other (next other past) :: past) = readBy id past := by
      cases answer : next other past with
      | event event =>
          have elsewhere : other ≠ id := by
            rintro rfl
            apply gives
            unfold next at answer
            split at answer
            · cases answer
            · rename_i held left
              exact ⟨rfl, _, _, held, left⟩
            · split at answer <;> cases answer
          exact if_neg elsewhere
      | waiting => rfl
      | closed => rfl
    have kept : unread id (.received other (next other past) :: past) = unread id past := by
      rw [unread, same]
      rfl
    exact ⟨by rw [same, kept]; exact standing.read, by rw [kept]; exact standing.bounded, standing.held,
      standing.known, standing.blank⟩

theorem standing_nil (id : Nat) : Standing ([] : History β) id :=
  ⟨rfl, Nat.zero_le _, fun attending => attending, by simp [holds], fun _ => rfl⟩

-- What is in a hub is what its history says.
theorem Ran.hub_eq (ran : Ran past hub) : hub = after past ∧ ∀ id, Standing past id := by
  induction ran with
  | start => exact ⟨rfl, standing_nil⟩
  | visit ran visit ih =>
      obtain ⟨rfl, standing⟩ := ih
      cases visit with
      | register => exact ⟨(after_register standing).symm, fun id => (standing id).register⟩
      | unregister gone => exact ⟨(after_unregister gone).symm, fun id => (standing id).unregister gone⟩
      | drop gone => exact ⟨(after_drop gone).symm, fun id => (standing id).drop gone⟩
      | receive reader =>
          simp only [Hub.visit, receive_after standing]
          exact ⟨trivial, fun id => (standing id).receive reader⟩
  | broadcast ran event ih =>
      obtain ⟨rfl, standing⟩ := ih
      refine ⟨?_, fun id => (standing id).broadcast event _⟩
      cases event with
      | none => rfl
      | some event => exact (after_broadcast standing event _).symm

end Bookmarks.Hub
