import Bookmarks.Proofs.Daemon.Traffic
import Bookmarks.Proofs.Tree.Changes

/-!
What comes of batches that are under way at the same time. Only the call with the lock is between its
load and its announcement (`Orderly`), so the batches are applied, and their changes announced, one
after another.
-/
set_option autoImplicit false

namespace Bookmarks

variable {ω σ : Type} [WrittenOrd ω]

namespace Daemon

omit [WrittenOrd ω] in
theorem export_hub (daemon : Daemon ω σ) (now : Int) (tree : Tree ω) (message : String) :
    (daemon.exportTree now tree message).2.hub = daemon.hub := by
  unfold exportTree
  split <;> rfl

omit [WrittenOrd ω] in
theorem record_commit_hub (daemon : Daemon ω σ) (tree : Tree ω) (status : CommitStatus) :
    (daemon.recordCommit tree status).2.hub = daemon.hub := by
  unfold recordCommit
  split
  · rfl
  · split
    · rfl
    · split <;> rfl

end Daemon

-- The tree is the one of the rows, under some version.
def Rows.Shows (rows : Rows ω) (tree : Tree ω) : Prop := ∃ version, rows.tree version = .ok tree

theorem Daemon.record_commit_shows {rows : Rows ω} {tree : Tree ω} (shown : rows.Shows tree) (daemon : Daemon ω σ)
    (status : CommitStatus) : rows.Shows (daemon.recordCommit tree status).1 := by
  obtain ⟨version, loaded⟩ := shown
  unfold recordCommit
  split
  · exact ⟨version, loaded⟩
  · split
    · exact ⟨version, loaded⟩
    · split
      · exact ⟨_, Rows.tree_version loaded _⟩
      · exact ⟨version, loaded⟩

theorem Store.shows_of_load {store : Store ω} {tree : Tree ω} (loaded : store.load = .ok tree) :
    store.rows.Shows tree := by
  obtain ⟨version, _, shown⟩ := bind_eq_ok.mp loaded
  exact ⟨version, shown⟩

theorem Store.Keeps.shows {store next : Store ω} {tree : Tree ω} (keeps : Store.Keeps store next)
    (shown : store.rows.Shows tree) : next.rows.Shows tree := by
  rw [keeps.rows]
  exact shown

-- One batch: it was accepted for the tree of the rows that it found, it was applied to them, and the
-- change tells in which nodes the tree differs now.
structure Follows (batch : List Operation) (now : Int) (first next : Transaction ω) (change : Change) : Prop where
  applied : first.applyAll now batch = .ok next
  announced : ∃ before after p, first.rows.Shows before ∧ before.project batch = .ok p ∧ next.rows.Shows after ∧
    change.changedIds.Pairwise (· < ·) ∧ ∀ id, id ∈ change.changedIds ↔ before.Differs after id

-- Batches one after another, each with its time and its change.
def Serial (batches : Nat → List Operation) : Transaction ω → List (Nat × Int) → List Change → Transaction ω → Prop
  | first, [], [], last => first = last
  | first, (id, now) :: commits, change :: changes, last =>
    ∃ next, Follows (batches id) now first next change ∧ Serial batches next commits changes last
  | _, _, _, _ => False

variable {batches : Nat → List Operation} {first last next : Transaction ω} {commits : List (Nat × Int)}
  {changes : List Change} {change : Change} {store : Store ω} {id : Nat} {now : Int} {before after : Tree ω}

theorem Serial.append (serial : Serial batches first commits changes last)
    (follows : Follows (batches id) now last next change) :
    Serial batches first (commits ++ [(id, now)]) (changes ++ [change]) next := by
  induction commits generalizing first changes with
  | nil =>
      cases changes with
      | nil =>
          cases serial
          exact ⟨next, follows, rfl⟩
      | cons => cases serial
  | cons commit commits ih =>
      cases changes with
      | nil => cases serial
      | cons =>
          obtain ⟨between, here, later⟩ := serial
          exact ⟨between, here, ih later⟩

-- All that was committed has been announced.
def Told (batches : Nat → List Operation) (first : Transaction ω) (commits : List (Nat × Int)) (changes : List Change)
    (store : Store ω) : Prop :=
  Serial batches first commits changes ⟨store.rows, store.ids⟩

-- All but the last batch, which is that of a call that found this tree.
structure Untold (batches : Nat → List Operation) (first : Transaction ω) (commits : List (Nat × Int))
    (changes : List Change) (store : Store ω) (id : Nat) (before : Tree ω) : Prop where
  accepted : ∃ p, before.project (batches id) = .ok p
  last : ∃ earlier now middle, commits = earlier ++ [(id, now)] ∧ Serial batches first earlier changes middle ∧
    middle.rows.Shows before ∧ middle.applyAll now (batches id) = .ok ⟨store.rows, store.ids⟩

theorem Untold.announce (untold : Untold batches first commits changes store id before)
    (shown : store.rows.Shows after) (version : String) (moment : Int) :
    Told batches first commits (changes ++ [⟨version, after.changedSince before, moment⟩]) store := by
  obtain ⟨p, accepted⟩ := untold.accepted
  obtain ⟨earlier, now, middle, rfl, serial, found, applied⟩ := untold.last
  exact serial.append ⟨applied, before, after, p, found, accepted, shown, Tree.changed_since_ascending before after,
    fun _ => Tree.mem_changed_since⟩

theorem Untold.keeps {later : Store ω} (untold : Untold batches first commits changes store id before)
    (keeps : Store.Keeps store later) : Untold batches first commits changes later id before := by
  refine ⟨untold.accepted, ?_⟩
  rw [Store.rows, keeps.database, keeps.ids]
  exact untold.last

-- What holds while the call with the lock is in a stage.
def Stage.Fits (batches : Nat → List Operation) (first : Transaction ω) (commits : List (Nat × Int))
    (changes : List Change) (store : Store ω) (id : Nat) : Stage ω → Prop
  | .entered => Told batches first commits changes store
  | .loaded before => Told batches first commits changes store ∧ store.load = .ok before
  | .checked before =>
    Told batches first commits changes store ∧ store.load = .ok before ∧ ∃ p, before.project (batches id) = .ok p
  | .committed before => Untold batches first commits changes store id before ∧ ∃ after, store.load = .ok after
  | .stored before after => Untold batches first commits changes store id before ∧ store.rows.Shows after
  | .exported before after _ => Untold batches first commits changes store id before ∧ store.rows.Shows after
  | .recorded before after _ => Untold batches first commits changes store id before ∧ store.rows.Shows after

def Call.Fits (batches : Nat → List Operation) (first : Transaction ω) (commits : List (Nat × Int))
    (changes : List Change) (store : Store ω) (id : Nat) : Call ω → Prop
  | .busy stage => stage.Fits batches first commits changes store id
  | _ => Told batches first commits changes store

open Traffic (commitsOf announcements)

theorem Call.Fits.still (call : Call ω) (fits : call.Fits batches first commits changes store id) :
    call.Fits batches first (commits ++ []) (changes ++ []) store id := by
  rwa [List.append_nil, List.append_nil]

-- One stage after another: the batch is committed in one, and its change is announced in another.
theorem Stage.Fits.work {stage : Stage ω} {daemon : Daemon ω σ}
    (fits : stage.Fits batches first commits changes daemon.store id) (now : Int) :
    (stage.work daemon now (batches id)).1.Fits batches first
      (commits ++ commitsOf id now (stage.work daemon now (batches id)).1)
      (changes ++ Hub.broadcasts (announcements daemon.hub now stage)) (stage.work daemon now (batches id)).2.store id := by
  cases stage with
  | entered =>
      simp only [Stage.work]
      cases loaded : daemon.tree with
      | error failure => exact Call.Fits.still (.leaving (.error failure)) fits
      | ok before => exact Call.Fits.still (.busy (.loaded before)) ⟨fits, map_error_ok.mp loaded⟩
  | loaded before =>
      obtain ⟨told, found⟩ := fits
      simp only [Stage.work]
      cases projected : before.project (batches id) with
      | error rejection => exact Call.Fits.still (.leaving (.error (.rejected rejection))) told
      | ok p => exact Call.Fits.still (.busy (.checked before)) ⟨told, found, p, projected⟩
  | checked before =>
      obtain ⟨told, found, accepted⟩ := fits
      simp only [Stage.work]
      cases stored : daemon.store.commit now (batches id) with
      | mk outcome store =>
          cases outcome with
          | error failure =>
              have same := Store.commit_error stored
              subst same
              exact Call.Fits.still (.leaving (.error (.store failure))) told
          | ok _ =>
              have untold : Untold batches first (commits ++ [(id, now)]) changes store id before :=
                ⟨accepted, commits, now, _, rfl, told, Store.shows_of_load found, Store.apply_all_of_commit stored⟩
              simp only [announcements, Hub.broadcasts, List.append_nil]
              exact ⟨untold, Store.load_of_commit found stored⟩
  | committed before =>
      obtain ⟨untold, after, found⟩ := fits
      simp only [Stage.work, found]
      exact Call.Fits.still (.busy (.stored before after)) ⟨untold, Store.shows_of_load found⟩
  | stored before after =>
      obtain ⟨untold, shown⟩ := fits
      have keeps := Daemon.export_keeps daemon now after (commitMessage (batches id))
      exact Call.Fits.still (.busy (.exported before after _)) ⟨untold.keeps keeps, keeps.shows shown⟩
  | exported before after status =>
      obtain ⟨untold, shown⟩ := fits
      have keeps := Daemon.record_commit_keeps daemon after status
      have versioned := Daemon.record_commit_shows shown daemon status
      exact Call.Fits.still (.busy (.recorded before _ status)) ⟨untold.keeps keeps, keeps.shows versioned⟩
  | recorded before after status =>
      obtain ⟨untold, shown⟩ := fits
      have told := untold.announce shown after.version now
      simp only [Stage.work, commitsOf, List.append_nil]
      exact told

theorem Stage.work_ran {stage : Stage ω} {daemon : Daemon ω σ} {heard : Hub.History Change}
    (ran : Hub.Ran heard daemon.hub) (now : Int) (batch : List Operation) :
    Hub.Ran (announcements daemon.hub now stage ++ heard) (stage.work daemon now batch).2.hub := by
  cases stage with
  | entered =>
      simp only [Stage.work]
      cases daemon.tree <;> exact ran
  | loaded before =>
      simp only [Stage.work]
      cases before.project batch <;> exact ran
  | checked before =>
      simp only [Stage.work]
      cases daemon.store.commit now batch with
      | mk outcome store => cases outcome <;> exact ran
  | committed before =>
      simp only [Stage.work]
      cases daemon.store.load <;> exact ran
  | stored before after =>
      have same := Daemon.export_hub daemon now after (commitMessage batch)
      exact same.symm ▸ ran
  | exported before after status =>
      have same := Daemon.record_commit_hub daemon after status
      exact same.symm ▸ ran
  | recorded before after status => exact ran.broadcast _

theorem Stage.work_holds_lock (stage : Stage ω) (daemon : Daemon ω σ) (now : Int) (batch : List Operation) :
    (stage.work daemon now batch).1.holdsLock = true := by
  cases stage with
  | entered =>
      simp only [Stage.work]
      cases daemon.tree <;> rfl
  | loaded before =>
      simp only [Stage.work]
      cases before.project batch <;> rfl
  | checked before =>
      simp only [Stage.work]
      cases daemon.store.commit now batch with
      | mk outcome store => cases outcome <;> rfl
  | committed before =>
      simp only [Stage.work]
      cases daemon.store.load <;> rfl
  | stored before after => rfl
  | exported before after status => rfl
  | recorded before after status => rfl

-- A batch counts as committed from the stage on in which it was.
theorem Stage.Fits.work_committed {stage : Stage ω} {daemon : Daemon ω σ}
    (fits : stage.Fits batches first commits changes daemon.store id) (now : Int) :
    (stage.hasCommitted = false ∧ (stage.work daemon now (batches id)).1.hasCommitted = true ∧
        commitsOf id now (stage.work daemon now (batches id)).1 = [(id, now)]) ∨
      ((stage.work daemon now (batches id)).1.hasCommitted = stage.hasCommitted ∧
        commitsOf id now (stage.work daemon now (batches id)).1 = []) := by
  cases stage with
  | entered =>
      simp only [Stage.work]
      cases daemon.tree <;> exact Or.inr ⟨rfl, rfl⟩
  | loaded before =>
      simp only [Stage.work]
      cases before.project (batches id) <;> exact Or.inr ⟨rfl, rfl⟩
  | checked before =>
      simp only [Stage.work]
      cases daemon.store.commit now (batches id) with
      | mk outcome store =>
          cases outcome with
          | error failure => exact Or.inr ⟨rfl, rfl⟩
          | ok _ => exact Or.inl ⟨rfl, rfl, rfl⟩
  | committed before =>
      -- what was committed can be loaded
      obtain ⟨_, after, found⟩ := fits
      simp only [Stage.work, found]
      exact Or.inr ⟨rfl, rfl⟩
  | stored before after => exact Or.inr ⟨rfl, rfl⟩
  | exported before after status => exact Or.inr ⟨rfl, rfl⟩
  | recorded before after status => exact Or.inr ⟨rfl, rfl⟩

-- What holds at any time, the changes being those that have been announced.
structure Orderly (batches : Nat → List Operation) (start : Traffic ω σ) (traffic : Traffic ω σ)
    (changes : List Change) : Prop where
  ran : Hub.Ran traffic.heard traffic.daemon.hub
  told : Hub.broadcasts traffic.heard = Hub.broadcasts start.heard ++ changes
  alone : ∀ id, (traffic.calls id).holdsLock = true ↔ traffic.writer = some id
  free : traffic.writer = none →
    Told batches ⟨start.daemon.store.rows, start.daemon.store.ids⟩ traffic.commits changes traffic.daemon.store
  held : ∀ id, traffic.writer = some id → (traffic.calls id).Fits batches
    ⟨start.daemon.store.rows, start.daemon.store.ids⟩ traffic.commits changes traffic.daemon.store id
  counted : ∀ id, id ∈ traffic.commits.map (·.1) ↔ (traffic.calls id).hasCommitted = true
  once : (traffic.commits.map (·.1)).Nodup

namespace Orderly

variable {start traffic : Traffic ω σ}

theorem quiet {daemon : Daemon ω σ} {heard : Hub.History Change} (ran : Hub.Ran heard daemon.hub) :
    Orderly batches (Traffic.quiet daemon heard) (Traffic.quiet daemon heard) [] where
  ran := ran
  told := (List.append_nil _).symm
  alone := by simp [Traffic.quiet, Call.holdsLock]
  free := fun _ => rfl
  held := by simp [Traffic.quiet]
  counted := by simp [Traffic.quiet, Call.hasCommitted]
  once := List.nodup_nil

theorem visit (orderly : Orderly batches start traffic changes) (visit : Hub.Visit) :
    Orderly batches start (traffic.visit visit) changes where
  ran := orderly.ran.visit visit
  told := by
    rw [← orderly.told]
    cases visit <;> rfl
  alone := orderly.alone
  free := orderly.free
  held := orderly.held
  counted := orderly.counted
  once := orderly.once

theorem refuse (orderly : Orderly batches start traffic changes) (here : traffic.calls id = .asked)
    (failure : Failure) :
    Orderly batches start { traffic with calls := Function.update traffic.calls id (.answered (.error failure)) }
      changes := by
  have outside := orderly.alone id
  have pending := orderly.counted id
  rw [here] at outside pending
  refine ⟨orderly.ran, orderly.told, ?alone, orderly.free, ?held, ?counted, orderly.once⟩
  case alone =>
    intro other
    by_cases same : other = id
    · subst same
      simpa [Call.holdsLock] using outside
    · simpa [Function.update_of_ne same] using orderly.alone other
  case held =>
    intro other holds
    by_cases same : other = id
    · subst same
      exact absurd (outside.mpr holds) Bool.false_ne_true
    · simpa [Function.update_of_ne same] using orderly.held other holds
  case counted =>
    intro other
    by_cases same : other = id
    · subst same
      simpa [Call.hasCommitted, Except.isOk, Except.toBool] using pending
    · simpa [Function.update_of_ne same] using orderly.counted other

theorem enter (orderly : Orderly batches start traffic changes) (here : traffic.calls id = .asked)
    (free : traffic.writer = none) :
    Orderly batches start
      { traffic with writer := some id, calls := Function.update traffic.calls id (.busy .entered) } changes := by
  have pending := orderly.counted id
  rw [here] at pending
  refine ⟨orderly.ran, orderly.told, ?alone, ?free, ?held, ?counted, orderly.once⟩
  case alone =>
    intro other
    by_cases same : other = id
    · subst same
      simp [Call.holdsLock]
    · have outside := orderly.alone other
      rw [free] at outside
      have different : ¬ id = other := fun this => same this.symm
      simpa [Function.update_of_ne same, different] using outside
  case free =>
    intro impossible
    cases impossible
  case held =>
    intro other holds
    cases holds
    simpa [Call.Fits, Stage.Fits] using orderly.free free
  case counted =>
    intro other
    by_cases same : other = id
    · subst same
      simpa [Call.hasCommitted, Stage.hasCommitted] using pending
    · simpa [Function.update_of_ne same] using orderly.counted other

theorem leave {answer : Except Failure (Applied ω)} (orderly : Orderly batches start traffic changes)
    (here : traffic.calls id = .leaving answer) :
    Orderly batches start
      { traffic with writer := none, calls := Function.update traffic.calls id (.answered answer) } changes := by
  have holder : traffic.writer = some id := (orderly.alone id).mp (by rw [here]; rfl)
  have told := orderly.held id holder
  have counted := orderly.counted id
  rw [here] at told counted
  refine ⟨orderly.ran, orderly.told, ?alone, fun _ => told, ?held, ?counted, orderly.once⟩
  case alone =>
    intro other
    by_cases same : other = id
    · subst same
      simp [Call.holdsLock]
    · have outside := orderly.alone other
      have different : ¬ id = other := fun this => same this.symm
      rw [holder] at outside
      simpa [Function.update_of_ne same, different] using outside
  case held =>
    intro other holds
    cases holds
  case counted =>
    intro other
    by_cases same : other = id
    · subst same
      simpa [Call.hasCommitted] using counted
    · simpa [Function.update_of_ne same] using orderly.counted other

theorem work {stage : Stage ω} (orderly : Orderly batches start traffic changes)
    (here : traffic.calls id = .busy stage) (now : Int) :
    Orderly batches start (traffic.work id now (batches id) stage)
      (changes ++ Hub.broadcasts (announcements traffic.daemon.hub now stage)) := by
  have holder : traffic.writer = some id := (orderly.alone id).mp (by rw [here]; rfl)
  have fits := orderly.held id holder
  have counted := orderly.counted id
  rw [here] at fits counted
  refine ⟨Stage.work_ran orderly.ran now (batches id), ?told, ?alone, ?free, ?held, ?counted, ?once⟩
  case told =>
    rw [← List.append_assoc, ← orderly.told]
    cases stage <;> simp [Traffic.work, announcements, Hub.broadcasts]
  case alone =>
    intro other
    by_cases same : other = id
    · subst same
      rw [Traffic.work_self, Stage.work_holds_lock]
      exact iff_of_true rfl holder
    · simpa [Traffic.work, Function.update_of_ne same] using orderly.alone other
  case free =>
    intro free
    exact absurd (holder.symm.trans free) nofun
  case held =>
    intro other holds
    have same : id = other := Option.some.inj (holder.symm.trans holds)
    subst same
    rw [Traffic.work_self]
    exact Stage.Fits.work fits now
  case counted =>
    intro other
    show other ∈ (traffic.commits ++ commitsOf id now (stage.work traffic.daemon now (batches id)).1).map (·.1) ↔ _
    by_cases same : other = id
    · subst same
      rw [Traffic.work_self]
      rcases Stage.Fits.work_committed fits now with ⟨_, committed, added⟩ | ⟨still, nothing⟩
      · simp [committed, added]
      · rw [still, nothing, List.append_nil]
        exact counted
    · have unmoved : (traffic.work id now (batches id) stage).calls other = traffic.calls other :=
        Function.update_of_ne same _ _
      rw [unmoved, ← orderly.counted other]
      rcases Stage.Fits.work_committed fits now with ⟨_, _, added⟩ | ⟨_, nothing⟩
      · simp [added, same]
      · rw [nothing, List.append_nil]
  case once =>
    show ((traffic.commits ++ commitsOf id now (stage.work traffic.daemon now (batches id)).1).map (·.1)).Nodup
    rcases Stage.Fits.work_committed fits now with ⟨pending, _, added⟩ | ⟨_, nothing⟩
    · have fresh : id ∉ traffic.commits.map (·.1) := by
        intro member
        have committed := counted.mp member
        simp [Call.hasCommitted, pending] at committed
      have whole : ((traffic.commits ++ [(id, now)]).map (·.1)).Perm (id :: traffic.commits.map (·.1)) := by
        rw [List.map_append]
        exact List.perm_append_singleton id _
      rw [added]
      exact whole.nodup_iff.mpr (List.nodup_cons.mpr ⟨fresh, orderly.once⟩)
    · rw [nothing, List.append_nil]
      exact orderly.once

theorem call (orderly : Orderly batches start traffic changes) (id : Nat) (now : Int) :
    ∃ later, Orderly batches start (traffic.call id now (batches id)) later := by
  simp only [Traffic.call]
  cases here : traffic.calls id with
  | asked =>
      by_cases empty : (batches id).isEmpty = true
      · simp only [empty, if_true]
        exact ⟨_, orderly.refuse here _⟩
      · cases free : traffic.writer with
        | none =>
            simp only [empty]
            exact ⟨_, orderly.enter here free⟩
        | some holder =>
            simp only [empty]
            exact ⟨_, orderly⟩
  | busy stage => exact ⟨_, orderly.work here now⟩
  | leaving answer => exact ⟨_, orderly.leave here⟩
  | answered answer => exact ⟨_, orderly⟩

theorem step (orderly : Orderly batches start traffic changes) (move : Move) :
    ∃ later, Orderly batches start (traffic.step batches move) later := by
  cases move with
  | call id now => exact orderly.call id now
  | visit visit => exact ⟨changes, orderly.visit visit⟩

theorem run (orderly : Orderly batches start traffic changes) (moves : List Move) :
    ∃ later, Orderly batches start (traffic.run batches moves) later := by
  induction moves generalizing traffic changes with
  | nil => exact ⟨changes, orderly⟩
  | cons move moves ih =>
      obtain ⟨later, next⟩ := orderly.step move
      exact ih next

end Orderly

namespace Hub

variable {past : History Change} {hub : Hub Change} {subscriber : Nat}

-- A subscriber that attends and has room is given whatever is broadcast.
theorem admitted_with_room (ran : Ran past hub) (attending : attends subscriber past = true)
    (room : (unread subscriber past).length < queueCapacity) (entry : Entry Change) :
    ∃ added, broadcasts (entry :: past) = broadcasts past ++ added ∧
      admitted subscriber (entry :: past) = admitted subscriber past ++ added := by
  have nothing : ∃ added, broadcasts past = broadcasts past ++ added ∧
      admitted subscriber past = admitted subscriber past ++ added :=
    ⟨[], (List.append_nil _).symm, (List.append_nil _).symm⟩
  cases entry with
  | registered new => exact nothing
  | unregistered gone => exact nothing
  | dropped gone => exact nothing
  | received reader answer => exact nothing
  | broadcast event report =>
      cases event with
      | none => exact nothing
      | some change =>
          refine ⟨[change], rfl, ?_⟩
          rw [admitted_broadcast (ran.hub_eq.2 subscriber), if_pos ⟨attending, room⟩]

end Hub

-- The subscriber is registered at every moment, and its queue is never full.
def Listens (batches : Nat → List Operation) (traffic : Traffic ω σ) (moves : List Move) (subscriber : Nat) : Prop :=
  ∀ count ≤ moves.length,
    Hub.attends subscriber (traffic.run batches (moves.take count)).heard = true ∧
      (Hub.unread subscriber (traffic.run batches (moves.take count)).heard).length < queueCapacity

theorem Traffic.step_heard (traffic : Traffic ω σ) (batches : Nat → List Operation) (move : Move) :
    (traffic.step batches move).heard = traffic.heard ∨
      ∃ entry, (traffic.step batches move).heard = entry :: traffic.heard := by
  cases move with
  | visit visit => exact Or.inr ⟨_, rfl⟩
  | call id now =>
      simp only [Traffic.step, Traffic.call]
      cases traffic.calls id with
      | asked =>
          by_cases empty : (batches id).isEmpty = true
          · simp [empty]
          · cases free : traffic.writer <;> simp [empty]
      | busy stage =>
          cases stage with
          | recorded before after status => exact Or.inr ⟨_, rfl⟩
          | _ => exact Or.inl rfl
      | leaving answer => exact Or.inl rfl
      | answered answer => exact Or.inl rfl

theorem Orderly.listened {start traffic : Traffic ω σ} {moves : List Move} {subscriber : Nat}
    (orderly : Orderly batches start traffic changes) (listens : Listens batches traffic moves subscriber) :
    ∃ added, Hub.broadcasts (traffic.run batches moves).heard = Hub.broadcasts traffic.heard ++ added ∧
      Hub.admitted subscriber (traffic.run batches moves).heard = Hub.admitted subscriber traffic.heard ++ added := by
  induction moves generalizing traffic changes with
  | nil => exact ⟨[], (List.append_nil _).symm, (List.append_nil _).symm⟩
  | cons move moves ih =>
      obtain ⟨attending, room⟩ := listens 0 (Nat.zero_le _)
      obtain ⟨later, next⟩ := orderly.step move
      have behind : Listens batches (traffic.step batches move) moves subscriber := fun count within =>
        listens (count + 1) (Nat.succ_le_succ within)
      obtain ⟨added, spoken, given⟩ := ih next behind
      rcases traffic.step_heard batches move with still | ⟨entry, heard⟩
      · rw [still] at spoken given
        exact ⟨added, spoken, given⟩
      · obtain ⟨first, spokenFirst, givenFirst⟩ := Hub.admitted_with_room orderly.ran attending room entry
        rw [heard, spokenFirst, List.append_assoc] at spoken
        rw [heard, givenFirst, List.append_assoc] at given
        exact ⟨first ++ added, spoken, given⟩

theorem Orderly.answered {start traffic : Traffic ω σ} (orderly : Orderly batches start traffic changes)
    (free : traffic.writer = none) (id : Nat) :
    id ∈ traffic.commits.map (·.1) ↔ ∃ applied, traffic.calls id = .answered (.ok applied) := by
  have outside := orderly.alone id
  rw [orderly.counted id]
  rw [free] at outside
  cases here : traffic.calls id with
  | asked => simp [Call.hasCommitted]
  | busy stage => simp [here, Call.holdsLock] at outside
  | leaving answer => simp [here, Call.holdsLock] at outside
  | answered answer => cases answer <;> simp [Call.hasCommitted, Except.isOk, Except.toBool]

/-- Whatever comes between the steps of the calls, a batch is checked against the tree that its
transaction begins with. When no call is under way, the rows are those of the batches that succeeded,
one after another as they were committed; and a subscriber that was there all the time, and never had a
full queue, was given the changes of these batches, in that order and nothing else. -/
theorem interleaved_batches {daemon : Daemon ω σ} {heard : Hub.History Change} (ran : Hub.Ran heard daemon.hub)
    {moves : List Move} {last : Traffic ω σ} (runs : (Traffic.quiet daemon heard).run batches moves = last) :
    (∀ id before, last.calls id = .busy (.checked before) →
      last.daemon.store.load = .ok before ∧ ∃ p, before.project (batches id) = .ok p) ∧
    (last.writer = none → ∃ changes,
      Serial batches ⟨daemon.store.rows, daemon.store.ids⟩ last.commits changes
        ⟨last.daemon.store.rows, last.daemon.store.ids⟩ ∧
      (last.commits.map (·.1)).Nodup ∧
      (∀ id, id ∈ last.commits.map (·.1) ↔ ∃ applied, last.calls id = .answered (.ok applied)) ∧
      ∀ subscriber, Listens batches (Traffic.quiet daemon heard) moves subscriber →
        last.daemon.hub.find? subscriber = some ⟨subscriber, true, Hub.unread subscriber last.heard⟩ ∧
        Hub.readBy subscriber last.heard ++ Hub.unread subscriber last.heard =
          Hub.readBy subscriber heard ++ Hub.unread subscriber heard ++ changes) := by
  subst runs
  have quiet : Orderly batches (Traffic.quiet daemon heard) (Traffic.quiet daemon heard) [] := .quiet ran
  obtain ⟨changes, orderly⟩ := quiet.run moves
  constructor
  · intro id before here
    have fits := orderly.held id ((orderly.alone id).mp (by rw [here]; rfl))
    rw [here] at fits
    exact fits.2
  · intro free
    refine ⟨changes, orderly.free free, orderly.once, orderly.answered free, ?_⟩
    intro subscriber listens
    obtain ⟨same, standing⟩ := orderly.ran.hub_eq
    obtain ⟨attending, _⟩ := listens moves.length (Nat.le_refl _)
    rw [List.take_length] at attending
    obtain ⟨added, spoken, given⟩ := quiet.listened listens
    have all : added = changes := List.append_cancel_left (spoken.symm.trans orderly.told)
    constructor
    · rw [same, Hub.find_after (standing subscriber), if_pos ((standing subscriber).held attending)]
      simp only [Hub.queueOf, attending]
    · rw [← (standing subscriber).read, given, all, ← (ran.hub_eq.2 subscriber).read]
      rfl

-- One bookmark and nothing else, one subscriber, no version control.
def loneBookmark : Daemon ℚ Unit where
  store := ⟨"state.db", ⟨Keyed.insert ∅ "x" ⟨Kind.bookmark.name, "", some "https://a", none, 0, 0, 0⟩, 0⟩, true, ∅, {}⟩
  hub := Hub.empty.register.2
  branch := "main"
  control := VersionControl.disabled _
  versions := ()

def retitles (id : Nat) : List Operation :=
  if id = 0 then [.updateBookmark "x" (some "A") none] else [.updateBookmark "x" (some "B") none]

-- The second call has to wait until the first one has left.
def alternately : List Move :=
  (List.replicate 9 [.call 0 2, .call 1 3]).flatten ++ List.replicate 9 (.call 1 3)

theorem interleaved_batches_alternately :
    ∃ (last : Traffic ℚ Unit) (changes : List Change),
      (Traffic.quiet loneBookmark [.registered 0]).run retitles alternately = last ∧
      Serial retitles ⟨loneBookmark.store.rows, loneBookmark.store.ids⟩ [(0, 2), (1, 3)] changes
        ⟨last.daemon.store.rows, last.daemon.store.ids⟩ ∧
      Hub.unread 0 last.heard = changes ∧ changes.map (·.changedIds) = [["x"], ["x"]] := by
  have ran : Hub.Ran [.registered 0] loneBookmark.hub := Hub.Ran.start.visit .register
  have free : ((Traffic.quiet loneBookmark [.registered 0]).run retitles alternately).writer = none := by
    decide +kernel
  have committed : ((Traffic.quiet loneBookmark [.registered 0]).run retitles alternately).commits =
      [(0, 2), (1, 3)] := by
    decide +kernel
  have listens : Listens retitles (Traffic.quiet loneBookmark [.registered 0]) alternately 0 := by
    unfold Listens
    decide +kernel
  obtain ⟨changes, serial, _, _, given⟩ := (interleaved_batches ran rfl).2 free
  have unread := (given 0 listens).2
  rw [committed] at serial
  have nothing : Hub.readBy 0 ((Traffic.quiet loneBookmark [.registered 0]).run retitles alternately).heard = [] := by
    decide +kernel
  have waiting : Hub.unread 0 ((Traffic.quiet loneBookmark [.registered 0]).run retitles alternately).heard = changes := by
    rw [nothing] at unread
    exact unread
  refine ⟨_, changes, rfl, serial, waiting, ?_⟩
  rw [← waiting]
  decide +kernel

end Bookmarks
