import Bookmarks.Proofs.Daemon.Ledger
import Bookmarks.Proofs.Daemon.Members
import Mathlib.Logic.Function.Basic

/-!
Daemons that exchange their bookmarks through one branch of one remote. Each has a profile of its own; their
batches, pushes and pulls come in any order, and any call to the version control can go wrong. A push and a pull
turn to the remote once and a batch does not, so that it is enough to take each of them as a whole. What one of
them does to the remote and to the commits is in `Advances`; which bookmarks everybody has is in `Agreed`.
-/
set_option autoImplicit false

namespace Bookmarks

open History (Grows Reaches)
open Store (Apart)
open Workplace (Rests Commits Valid Advances Holding)

inductive Replicas.Call where
  | apply (mishaps : List (Option Mishap)) (now : Int) (batch : List Operation)
  | push (mishaps : List (Option Mishap))
  | pull (mishaps : List (Option Mishap)) (now : Int)

structure Replicas (ι ω : Type) [WrittenOrd ω] where
  depot : Depot (Content ω)
  member : ι → Daemon ω (Workplace (Content ω))
  -- Who made each commit, and the tree that was stored then.
  made : List (ι × Tree ω)
  -- The batches that were committed: whose each is, and the last commit after it.
  batches : List (ι × Nat)
  pushed : List (ι × Nat)
  -- No batch that was stored is still to be committed.
  settled : Prop

namespace Replicas

variable {ι ω : Type} [DecidableEq ι] [WrittenOrd ω]

def start (remote branch : String) (directory : ι → String) (store : ι → Store ω) : Replicas ι ω where
  depot := Depot.empty.withRemote remote
  member i := Daemon.start (store i) branch Workplace.control
    ⟨{ (Repository.new (directory i) : Repository (Content ω)) with origin := some remote, branch }, Depot.empty⟩
  made := []
  batches := []
  pushed := []
  settled := True

-- A daemon, with the commits and the remote as they are now.
def seat (replicas : Replicas ι ω) (i : ι) : Daemon ω (Workplace (Content ω)) :=
  { replicas.member i with versions := { (replicas.member i).versions with depot := replicas.depot } }

def after (replicas : Replicas ι ω) (i : ι) (next : Daemon ω (Workplace (Content ω))) : Replicas ι ω :=
  { replicas with depot := next.versions.depot, member := Function.update replicas.member i next }

def apply (replicas : Replicas ι ω) (i : ι) (mishaps : List (Option Mishap)) (now : Int) (batch : List Operation) :
    Replicas ι ω :=
  let (answer, next) := ((replicas.seat i).under mishaps).apply now batch
  match answer with
  | .error _ => replicas.after i next.afterwards
  | .ok applied =>
    { replicas.after i next.afterwards with
      made := if applied.status.committed then replicas.made ++ [(i, applied.tree)] else replicas.made
      batches := replicas.batches ++
        if applied.status.pending then [] else (next.afterwards.versions.tip.map fun number => (i, number)).toList
      settled := replicas.settled ∧ applied.status.pending = false }

def push (replicas : Replicas ι ω) (i : ι) (mishaps : List (Option Mishap)) : Replicas ι ω :=
  let (answer, next) := ((replicas.seat i).under mishaps).push
  { replicas.after i next.afterwards with
    pushed := replicas.pushed ++ if answer.isOk then replicas.batches.filter fun batch => batch.1 = i else [] }

def pull (replicas : Replicas ι ω) (i : ι) (mishaps : List (Option Mishap)) (now : Int) : Replicas ι ω :=
  replicas.after i (((replicas.seat i).under mishaps).pull now).2.afterwards

def step (replicas : Replicas ι ω) (event : ι × Call) : Replicas ι ω :=
  match event.2 with
  | .apply mishaps now batch => replicas.apply event.1 mishaps now batch
  | .push mishaps => replicas.push event.1 mishaps
  | .pull mishaps now => replicas.pull event.1 mishaps now

def run (replicas : Replicas ι ω) (events : List (ι × Call)) : Replicas ι ω := events.foldl step replicas

variable {replicas : Replicas ι ω} {remote branch path : String} {i : ι} {next : Daemon ω (Workplace (Content ω))}

theorem seat_after_self (replicas : Replicas ι ω) (i : ι) (next : Daemon ω (Workplace (Content ω))) :
    (replicas.after i next).seat i = next := by
  simp only [seat, after, Function.update_self]

theorem seat_after_other {j : ι} (different : j ≠ i) : (replicas.after i next).seat j =
    { replicas.member j with versions := { (replicas.member j).versions with depot := next.versions.depot } } := by
  simp only [seat, after, Function.update_of_ne different]

-- Every daemon uses the one branch of the one remote.
structure Placed (remote branch path : String) (replicas : Replicas ι ω) : Prop where
  seats : ∀ i, (replicas.seat i).versions.repository.seat = (some remote, branch)
  branches : ∀ i, (replicas.seat i).branch = branch
  paths : ∀ i, (replicas.seat i).store.path = path
  valid : ∀ i, Valid (replicas.seat i).versions

-- The batches of a daemon stay in its history, and those that it has pushed in the history of the remote.
structure Recorded (remote branch : String) (replicas : Replicas ι ω) : Prop where
  batches : ∀ batch ∈ replicas.batches, ∃ number, (replicas.seat batch.1).versions.tip = some number ∧
    replicas.depot.history.Reaches number batch.2
  pushed : ∀ batch ∈ replicas.pushed, ∃ number, replicas.depot.head? remote branch = some number ∧
    replicas.depot.history.Reaches number batch.2

-- What holds of the one that has changed, and of the others among the commits as they are then, holds of all.
theorem seats_after {P : Daemon ω (Workplace (Content ω)) → Prop} (here : P next)
    (others : ∀ j, j ≠ i → P { replicas.member j with
      versions := { (replicas.member j).versions with depot := next.versions.depot } }) (j : ι) :
    P ((replicas.after i next).seat j) := by
  by_cases same : j = i
  · subst same
    rw [seat_after_self]
    exact here
  · rw [seat_after_other same]
    exact others j same

theorem Placed.after (placed : Placed remote branch path replicas)
    (advances : Advances (replicas.seat i).versions next.versions)
    (sameBranch : next.branch = (replicas.seat i).branch) (samePath : next.store.path = (replicas.seat i).store.path) :
    Placed remote branch path (replicas.after i next) := by
  refine ⟨?seats, ?branches, ?paths, ?valid⟩
  case seats =>
    exact seats_after (P := fun daemon => daemon.versions.repository.seat = (some remote, branch))
      (advances.seat.trans (placed.seats i)) fun j _ => placed.seats j
  case branches =>
    exact seats_after (P := fun daemon => daemon.branch = branch)
      (sameBranch.trans (placed.branches i)) fun j _ => placed.branches j
  case paths =>
    exact seats_after (P := fun daemon => daemon.store.path = path)
      (samePath.trans (placed.paths i)) fun j _ => placed.paths j
  case valid =>
    have validNext := advances.valid (placed.valid i)
    refine seats_after (P := fun daemon => Valid daemon.versions) validNext fun j _ => ⟨?_, validNext.remotes⟩
    intro number last
    exact Nat.lt_of_lt_of_le ((placed.valid j).tip number last) (List.IsPrefix.length_le advances.grows)

theorem Recorded.after (recorded : Recorded remote branch replicas)
    (advances : Advances (replicas.seat i).versions next.versions) :
    Recorded remote branch (replicas.after i next) := by
  refine ⟨?_, ?_⟩
  · intro batch member
    obtain ⟨number, tip, reaches⟩ := recorded.batches batch member
    by_cases same : batch.1 = i
    · rw [same] at tip
      obtain ⟨last, lastTip, more⟩ := advances.tip number tip
      refine ⟨last, ?_, more.trans (advances.grows.reaches reaches)⟩
      rw [same, seat_after_self]
      exact lastTip
    · refine ⟨number, ?_, advances.grows.reaches reaches⟩
      rw [seat_after_other same]
      exact tip
  · intro batch member
    obtain ⟨number, head, reaches⟩ := recorded.pushed batch member
    obtain ⟨last, lastHead, more⟩ := advances.heads remote branch number head
    exact ⟨last, lastHead, more.trans (advances.grows.reaches reaches)⟩

-- The batch that was committed last, if it does not wait for that.
theorem reached_last {pending : Bool} {batch : ι × Nat}
    (listed : batch ∈ if pending then [] else (next.versions.tip.map fun number => (i, number)).toList) :
    ∃ number, ((replicas.after i next).seat batch.1).versions.tip = some number ∧
      next.versions.depot.history.Reaches number batch.2 := by
  cases pending with
  | true => cases listed
  | false =>
      obtain ⟨number, tip, rfl⟩ := Option.map_eq_some_iff.mp (Option.mem_toList.mp listed)
      refine ⟨number, ?_, .here number⟩
      rw [seat_after_self]
      exact tip

-- Each commit has the database that its maker had then, and every daemon that of its last commit.
structure Agreed (path : String) (replicas : Replicas ι ω) : Prop where
  anchored : ∀ i, (replicas.seat i).Anchored
  length : replicas.made.length = replicas.depot.history.commits.length
  holds : ∀ number entry, replicas.made[number]? = some entry → ∃ database,
    (replicas.depot.history.filesOf number).get? path = some (.database database) ∧ database.rows.Rooted ∧
      database.rows.Shows entry.2

theorem Agreed.anchored_after (agreed : Agreed path replicas) (placed : Placed remote branch path replicas)
    (advances : Advances (replicas.seat i).versions next.versions) (here : next.Anchored) (j : ι) :
    ((replicas.after i next).seat j).Anchored := by
  refine seats_after (P := Daemon.Anchored) here (fun j _ => ?_) j
  obtain ⟨current, rooted, holding⟩ := agreed.anchored j
  refine ⟨current, rooted, ?_⟩
  intro number last
  obtain ⟨held, staged⟩ := holding number last
  refine ⟨?_, staged⟩
  rw [advances.grows.files ((placed.valid j).tip number last)]
  exact held

omit [DecidableEq ι] in
theorem Agreed.holds_after (agreed : Agreed path replicas)
    (advances : Advances (replicas.seat i).versions next.versions)
    {number : Nat} {entry : ι × Tree ω} (listed : replicas.made[number]? = some entry) : ∃ database,
    (next.versions.depot.history.filesOf number).get? path = some (.database database) ∧ database.rows.Rooted ∧
      database.rows.Shows entry.2 := by
  obtain ⟨inside, _⟩ := List.getElem?_eq_some_iff.mp listed
  rw [agreed.length] at inside
  rw [advances.grows.files inside]
  exact agreed.holds number entry listed

-- No commit was made.
theorem Agreed.after (agreed : Agreed path replicas) (placed : Placed remote branch path replicas)
    (advances : Advances (replicas.seat i).versions next.versions) (here : next.Anchored)
    (none : next.versions.depot.history = replicas.depot.history) : Agreed path (replicas.after i next) :=
  ⟨agreed.anchored_after placed advances here, agreed.length.trans (by rw [← none]; rfl),
    fun _ _ listed => agreed.holds_after advances listed⟩

omit [DecidableEq ι] in
-- A push that succeeds leaves the branch of the remote at the last commit.
theorem Placed.pushed (placed : Placed remote branch path replicas) {mishaps : List (Option Mishap)}
    (succeeded : ((replicas.seat i).under mishaps).push.1.isOk = true) :
    ((replicas.seat i).under mishaps).push.2.afterwards.versions.depot.head? remote branch =
      ((replicas.seat i).under mishaps).push.2.afterwards.versions.tip := by
  have answered : ((replicas.seat i).versions.pushUnder mishaps.head?.join).1 = .ok () := by
    cases answer : ((replicas.seat i).versions.pushUnder mishaps.head?.join).1 with
    | ok _ => rfl
    | error error =>
        have failed : ((replicas.seat i).under mishaps).push.1 =
            ((replicas.seat i).versions.pushUnder mishaps.head?.join).1.mapError .version := rfl
        rw [failed, answer] at succeeded
        cases succeeded
  have same := Workplace.push_under_ok answered
  rw [same] at answered
  obtain ⟨_, pushes⟩ := Workplace.push_advances (replicas.seat i).versions
  obtain ⟨other, origin, head, _⟩ := pushes answered
  have seat := placed.seats i
  have sameRemote : other = remote := Option.some.inj (origin.symm.trans (congrArg Prod.fst seat))
  have sameBranch : (replicas.seat i).versions.repository.branch = branch := congrArg Prod.snd seat
  rw [sameRemote, sameBranch] at head
  show ((replicas.seat i).versions.pushUnder mishaps.head?.join).2.depot.head? remote branch =
    ((replicas.seat i).versions.pushUnder mishaps.head?.join).2.tip
  rw [same]
  exact head

theorem last_or_earlier {α : Type} {list : List α} {added item : α} {number : Nat}
    (listed : (list ++ [added])[number]? = some item) :
    list[number]? = some item ∨ number = list.length ∧ item = added := by
  rcases Nat.lt_or_ge number list.length with before | after
  · rw [List.getElem?_append_left before] at listed
    exact Or.inl listed
  · rw [List.getElem?_append_right after] at listed
    cases position : number - list.length with
    | zero =>
        rw [position] at listed
        cases listed
        exact Or.inr ⟨by omega, rfl⟩
    | succ more =>
        rw [position] at listed
        cases listed

-- A commit was made of what its maker had stored.
theorem Agreed.made_after (agreed : Agreed path replicas) (placed : Placed remote branch path replicas)
    (advances : Advances (replicas.seat i).versions next.versions) (here : next.Anchored)
    (samePath : next.store.path = path)
    {tree : Tree ω} (shown : next.store.rows.Shows tree) {files : Files ω} {paths : List String}
    (commits : Commits (replicas.seat i).versions next.versions files paths) :
    Agreed path { replicas.after i next with made := replicas.made ++ [(i, tree)] } := by
  obtain ⟨_, _, history, _⟩ := commits.made
  have longer : next.versions.depot.history.commits.length = replicas.depot.history.commits.length + 1 := by
    rw [history, History.add, List.length_append, List.length_singleton]
    rfl
  refine ⟨agreed.anchored_after placed advances here, ?length, ?holds⟩
  case length =>
    rw [List.length_append, List.length_singleton, agreed.length]
    exact longer.symm
  case holds =>
    intro number entry listed
    rcases last_or_earlier listed with earlier | ⟨last, rfl⟩
    · exact agreed.holds_after advances earlier
    · have tip : next.versions.tip = some number := by
        rw [last, agreed.length]
        exact commits.tip
      obtain ⟨held, _⟩ := here.holding number tip
      rw [samePath] at held
      exact ⟨next.store.database, held, here.rooted, shown⟩

structure Sound (remote branch path : String) (replicas : Replicas ι ω) : Prop where
  placed : Placed remote branch path replicas
  recorded : Recorded remote branch replicas
  agreed : replicas.settled → Agreed path replicas

omit [DecidableEq ι] in
-- Every commit can be taken over by every daemon.
theorem Sound.opens (sound : Sound remote branch path replicas) (agreed : Agreed path replicas) (i : ι) (other : String)
    (number : Nat) (_origin : (replicas.seat i).versions.repository.origin = some other)
    (head : (replicas.seat i).versions.depot.head? other (replicas.seat i).branch = some number) :
    Daemon.Opens (replicas.seat i).versions (replicas.seat i).store.path number := by
  have inside := (sound.placed.valid i).remotes other (replicas.seat i).branch number head
  have listed : number < replicas.made.length := agreed.length ▸ inside
  obtain ⟨database, found, rooted, _⟩ := agreed.holds number _ (List.getElem?_eq_getElem listed)
  rw [sound.placed.paths i]
  exact ⟨database, found, rooted⟩

theorem Sound.pull [ExactOrd ω] (apart : Apart path) (sound : Sound remote branch path replicas) (i : ι)
    (mishaps : List (Option Mishap)) (now : Int) : Sound remote branch path (replicas.pull i mishaps now) := by
  have apartHere : Apart (replicas.seat i).store.path := sound.placed.paths i ▸ apart
  have advances := Daemon.pull_advances (replicas.seat i) mishaps now
  have done := (Prod.eta (((replicas.seat i).under mishaps).pull now)).symm
  obtain ⟨samePath, depot, _⟩ := Daemon.pull_made apartHere mishaps now done
  refine ⟨sound.placed.after advances (Daemon.branch_of_pull _ _ _) samePath, sound.recorded.after advances, ?_⟩
  intro settled
  have agreed := sound.agreed settled
  obtain ⟨_, anchored, _⟩ := Daemon.pull_lands apartHere (agreed.anchored i) (sound.opens agreed i) done
  exact agreed.after sound.placed advances anchored (congrArg Depot.history depot)

theorem Sound.push (sound : Sound remote branch path replicas) (i : ι) (mishaps : List (Option Mishap)) :
    Sound remote branch path (replicas.push i mishaps) := by
  have advances : Advances (replicas.seat i).versions ((replicas.seat i).under mishaps).push.2.afterwards.versions :=
    Workplace.push_under_advances (replicas.seat i).versions mishaps.head?.join
  have recorded := sound.recorded.after advances
  obtain ⟨seats, branches, paths, valid⟩ := sound.placed.after advances rfl rfl
  refine ⟨⟨seats, branches, paths, valid⟩, ⟨recorded.batches, ?_⟩, ?_⟩
  · intro batch member
    have listed : batch ∈ replicas.pushed ++ (if ((replicas.seat i).under mishaps).push.1.isOk then
        replicas.batches.filter fun batch => batch.1 = i else []) := member
    rcases List.mem_append.mp listed with earlier | now
    · exact recorded.pushed batch earlier
    · by_cases succeeded : ((replicas.seat i).under mishaps).push.1.isOk = true
      · rw [if_pos succeeded] at now
        obtain ⟨stored, isOwn⟩ := List.mem_filter.mp now
        obtain ⟨number, tip, reaches⟩ := recorded.batches batch stored
        refine ⟨number, ?_, reaches⟩
        rw [of_decide_eq_true isOwn, seat_after_self] at tip
        rw [← tip]
        exact sound.placed.pushed succeeded
      · rw [if_neg succeeded] at now
        cases now
  · intro settled
    have agreed := sound.agreed settled
    obtain ⟨current, rooted, holding⟩ := agreed.anchored i
    obtain ⟨_, _, history⟩ := Workplace.push_under_valid (sound.placed.valid i) mishaps.head?.join
    obtain ⟨anchored, length, holds⟩ :=
      agreed.after sound.placed advances ⟨current, rooted, Workplace.push_under_holding holding _⟩ history
    exact ⟨anchored, length, holds⟩

theorem Sound.apply [ExactOrd ω] (apart : Apart path) (sound : Sound remote branch path replicas) (i : ι)
    (mishaps : List (Option Mishap)) (now : Int) (batch : List Operation) :
    Sound remote branch path (replicas.apply i mishaps now batch) := by
  have place := sound.placed.paths i
  have apartHere : Apart (replicas.seat i).store.path := place ▸ apart
  have advances := Daemon.apply_advances (sound.placed.valid i) mishaps now batch
  have sameBranch := Daemon.branch_of_apply ((replicas.seat i).under mishaps) now batch
  obtain ⟨samePath, _⟩ := Daemon.apply_made apartHere mishaps now batch rfl
  cases done : ((replicas.seat i).under mishaps).apply now batch with
  | mk answer next =>
      rw [done] at advances sameBranch samePath
      have placed := sound.placed.after advances sameBranch samePath
      have recorded := sound.recorded.after advances
      cases answer with
      | error failure =>
          have same : replicas.apply i mishaps now batch = replicas.after i next.afterwards := by
            simp only [Replicas.apply, done]
          rw [same]
          refine ⟨placed, recorded, ?_⟩
          intro settled
          have agreed := sound.agreed settled
          rcases Daemon.apply_stored mishaps now batch done with ⟨_, _, rfl⟩ | ⟨_, _, _, impossible, _⟩
          · obtain ⟨current, rooted, holding⟩ := agreed.anchored i
            exact agreed.after sound.placed advances ⟨current, rooted, holding⟩ rfl
          · cases impossible
      | ok applied =>
          have same : replicas.apply i mishaps now batch = { replicas.after i next.afterwards with
              made := if applied.status.committed then replicas.made ++ [(i, applied.tree)] else replicas.made
              batches := replicas.batches ++
                if applied.status.pending then [] else (next.afterwards.versions.tip.map fun number => (i, number)).toList
              settled := replicas.settled ∧ applied.status.pending = false } := by
            simp only [Replicas.apply, done]
          rw [same]
          obtain ⟨seats, branches, paths, valid⟩ := placed
          refine ⟨⟨seats, branches, paths, valid⟩, ⟨?_, recorded.pushed⟩, ?_⟩
          · intro own member
            rcases List.mem_append.mp member with earlier | last
            · exact recorded.batches own earlier
            · exact reached_last last
          · intro settled
            have agreed := sound.agreed settled.1
            obtain ⟨anchored, _, shown, ways⟩ := Daemon.apply_lands apartHere (agreed.anchored i) done settled.2
            rcases ways with ⟨unmade, rests⟩ | ⟨made, files, commits⟩
            · obtain ⟨others, length, holds⟩ :=
                agreed.after sound.placed advances anchored (congrArg Depot.history rests.depot)
              rw [unmade]
              exact ⟨others, length, holds⟩
            · obtain ⟨others, length, holds⟩ :=
                agreed.made_after sound.placed advances anchored (samePath.trans place) shown commits
              rw [made]
              exact ⟨others, length, holds⟩

theorem Sound.step [ExactOrd ω] (apart : Apart path) (sound : Sound remote branch path replicas) (event : ι × Call) :
    Sound remote branch path (replicas.step event) := by
  obtain ⟨i, call⟩ := event
  cases call with
  | apply mishaps now batch => exact sound.apply apart i mishaps now batch
  | push mishaps => exact sound.push i mishaps
  | pull mishaps now => exact sound.pull apart i mishaps now

theorem Sound.run [ExactOrd ω] (apart : Apart path) (sound : Sound remote branch path replicas)
    (events : List (ι × Call)) :
    Sound remote branch path (replicas.run events) := by
  induction events generalizing replicas with
  | nil => exact sound
  | cons event rest ih => exact ih (sound.step apart event)

omit [DecidableEq ι] in
theorem Sound.start {directory : ι → String} {store : ι → Store ω} (paths : ∀ i, (store i).path = path)
    (current : ∀ i, (store i).isCurrent = true) (rooted : ∀ i, (store i).rows.Rooted) :
    Sound remote branch path (start remote branch directory store) := by
  have unborn (i : ι) : ((Replicas.start remote branch directory store).seat i).versions.tip = none := rfl
  have depot : (Replicas.start remote branch directory store).depot = ⟨.empty, Keyed.insert ∅ remote ∅⟩ := rfl
  have bare (other otherBranch : String) : (Replicas.start remote branch directory store).depot.head? other otherBranch = none := by
    rw [depot, Depot.head?, Keyed.get?_insert]
    split <;> rfl
  refine ⟨⟨fun _ => rfl, fun _ => rfl, paths, ?valid⟩, ⟨?batches, ?pushed⟩, ?agreed⟩
  case valid =>
    intro i
    refine ⟨?_, ?_⟩
    · intro number impossible
      rw [unborn i] at impossible
      cases impossible
    · intro other otherBranch number impossible
      have none := bare other otherBranch
      rw [show (Replicas.start remote branch directory store).depot.head? other otherBranch = some number from impossible] at none
      cases none
  case batches =>
    intro batch impossible
    cases impossible
  case pushed =>
    intro batch impossible
    cases impossible
  case agreed =>
    intro _
    refine ⟨fun i => ⟨current i, rooted i, ?_⟩, ?_, ?_⟩
    · intro number impossible
      rw [unborn i] at impossible
      cases impossible
    · rfl
    · intro number entry impossible
      cases impossible

theorem Sound.forward (sound : Sound remote branch path replicas) (event : ι × Call) {older : Nat}
    (here : replicas.depot.head? remote branch = some older) : ∃ number,
    (replicas.step event).depot.head? remote branch = some number ∧ (replicas.step event).depot.history.Reaches number older := by
  obtain ⟨i, call⟩ := event
  cases call with
  | apply mishaps now batch =>
      have advances := Daemon.apply_advances (sound.placed.valid i) mishaps now batch
      have depot : (replicas.step (i, .apply mishaps now batch)).depot =
          (((replicas.seat i).under mishaps).apply now batch).2.afterwards.versions.depot := by
        simp only [Replicas.step, Replicas.apply]
        split <;> rfl
      rw [depot]
      exact advances.heads remote branch older here
  | push mishaps =>
      have advances := Workplace.push_under_advances (replicas.seat i).versions mishaps.head?.join
      exact advances.heads remote branch older here
  | pull mishaps now =>
      have advances := Daemon.pull_advances (replicas.seat i) mishaps now
      exact advances.heads remote branch older here

/-- Where a branch of the remote has moved it stands at a commit that was made from the one before, and every batch whose
push succeeded stays in its history. If no batch that was stored waits for its commit, a daemon whose pull
succeeds has the tree, but for the version, that the maker of the commit it took over had stored when it
made that commit; the version is the hash of that commit, and neither side is ahead. All of them have their database at
the same path of the repository, apart from the files that are written next to it, and in a journal mode that keeps it a
single file, which the default, `DELETE`, does. -/
theorem replicas_agree [ExactOrd ω] {directory : ι → String} {store : ι → Store ω} (apart : Apart path)
    (paths : ∀ i, (store i).path = path) (current : ∀ i, (store i).isCurrent = true)
    (rooted : ∀ i, (store i).rows.Rooted)
    (events : List (ι × Call)) {last : Replicas ι ω} (ran : (start remote branch directory store).run events = last) :
    (∀ event older, last.depot.head? remote branch = some older → ∃ number,
      (last.step event).depot.head? remote branch = some number ∧
        older ∈ (last.step event).depot.history.reach (some number)) ∧
    (∀ batch ∈ last.pushed, batch.2 ∈ last.depot.history.reach (last.depot.head? remote branch)) ∧
    (last.settled → last.made.length = last.depot.history.commits.length ∧
      ∀ i mishaps now tree next, ((last.seat i).under mishaps).pull now = (.ok tree, next) → ∃ number maker stored,
        last.depot.head? remote branch = some number ∧ last.made[number]? = some (maker, stored) ∧
        tree = { stored with version := hashOf number } ∧ next.afterwards.tree = .ok tree ∧
        next.afterwards.status.1 = .ok ⟨some (hashOf number), some (hashOf number), 0, 0⟩) := by
  have sound : Sound remote branch path last := by
    have begun : Sound remote branch path (start remote branch directory store) := .start paths current rooted
    rw [← ran]
    exact begun.run apart events
  refine ⟨?forward, ?pushed, ?agreed⟩
  case forward =>
    intro event older here
    obtain ⟨number, head, reaches⟩ := sound.forward event here
    exact ⟨number, head, History.mem_reach.mpr reaches⟩
  case pushed =>
    intro batch member
    obtain ⟨number, head, reaches⟩ := sound.recorded.pushed batch member
    rw [head]
    exact History.mem_reach.mpr reaches
  case agreed =>
    intro settled
    have agreed := sound.agreed settled
    refine ⟨agreed.length, ?_⟩
    intro i mishaps now tree next done
    have place := sound.placed.paths i
    obtain ⟨_, _, lands⟩ := Daemon.pull_lands (place ▸ apart) (agreed.anchored i) (sound.opens agreed i) done
    obtain ⟨other, number, origin, head, found, loaded, version, status⟩ := lands tree rfl
    have sameRemote : remote = other :=
      Option.some.inj ((congrArg Prod.fst (sound.placed.seats i)).symm.trans origin)
    rw [← sameRemote, sound.placed.branches i] at head
    have inside := (sound.placed.valid i).remotes remote branch number head
    have listed : number < last.made.length := agreed.length ▸ inside
    obtain ⟨database, held, _, shown⟩ := agreed.holds number _ (List.getElem?_eq_getElem listed)
    rw [place] at found
    have installed : database = next.afterwards.store.database := Content.database.inj (Option.some.inj (held.symm.trans found))
    rw [installed] at shown
    obtain ⟨stamp, _, made⟩ := bind_eq_ok.mp loaded
    have same := shown.eq_of_tree made
    have stamped : tree.version = stamp := congrArg Tree.version same
    refine ⟨number, _, _, head, List.getElem?_eq_getElem listed, ?_, map_error_ok.mpr loaded, status⟩
    rw [← version, stamped]
    exact same

-- One profile with a bookmark, and one that is new.
def stores (isNew : Bool) : Store ℚ := ⟨"state.db", if isNew then Daemon.cleared else Daemon.shelf, true, ∅, {}⟩

-- The bookmark is committed and pushed.
def handedOn : Replicas Bool ℚ :=
  (start "library" "main" (fun _ => "profile") stores).run [(false, .apply [] 1 Ledger.idle), (false, .push [])]

def committer : Daemon ℚ (Workplace (Content ℚ)) := (start "library" "main" (fun _ => "profile") stores).seat false

-- The bookmark is committed.
def committed : Replicas Bool ℚ :=
  let (applied, next) := (committer.under []).settle 1 Ledger.shelfTree Ledger.shelfTree (commitMessage Ledger.idle)
  { (start "library" "main" (fun _ => "profile") stores).after false next.afterwards with
    made := if applied.status.committed then [(false, applied.tree)] else []
    batches := if applied.status.pending then [] else (next.afterwards.versions.tip.map fun number => (false, number)).toList
    settled := True ∧ applied.status.pending = false }

theorem handed_on_eq : handedOn = committed.push false [] := by
  have stored :=
    @Ledger.idle_settles _ (((start "library" "main" (fun _ => "profile") stores).seat false).under []) rfl rfl 1
  have applied : (start "library" "main" (fun _ => "profile") stores).apply false [] 1 Ledger.idle = committed := by
    simp only [Replicas.apply, stored]
    rfl
  show ((start "library" "main" (fun _ => "profile") stores).apply false [] 1 Ledger.idle).push false [] = _
  rw [applied]

theorem handed_on_settled : handedOn.settled := by
  rw [handed_on_eq]
  show True ∧ ((committer.under []).settle 1 Ledger.shelfTree Ledger.shelfTree
    (commitMessage Ledger.idle)).1.status.pending = false
  decide +kernel

-- Who is new takes over the bookmark.
theorem handed_on_pull : ∃ tree last, (handedOn.seat true).pull 2 = (.ok tree, last) ∧
    last.store.rows = Daemon.shelf.rows := by
  rw [handed_on_eq]
  have taking : Daemon.takes Daemon.shelf (((committed.push false []).seat true).versions.prepare.pull
      ((committed.push false []).seat true).store.allFiles ((committed.push false []).seat true).branch).1 = true := by
    decide +kernel
  obtain ⟨files, taken, there, target, draft⟩ := Daemon.takes_ok taking
  obtain ⟨before, shown, _, _, nodes, _⟩ := Rows.tree_ok Daemon.cleared_legible uninitialized
  have loaded : ((committed.push false []).seat true).store.load = .ok before := Store.load_of_rows rfl shown
  have few : before.nodes.size ≤ 1 := by
    rw [nodes]
    decide +kernel
  have place : sidecar ((committed.push false []).seat true).store.path = "state.version" := by decide
  have noTarget : (files.get? (sidecar ((committed.push false []).seat true).store.path)).any Content.isDirectory = false := by
    rw [place, target]
    rfl
  have noDraft : (files.get? (temporary (sidecar ((committed.push false []).seat true).store.path))).any Content.isDirectory =
      false := by
    rw [place, show temporary "state.version" = "state.version.tmp" by decide, draft]
    rfl
  obtain ⟨tree, last, done, rows, _⟩ := Daemon.pull_succeeds rfl loaded (fun _ => few) (Prod.ext taken rfl) there
    (by decide +kernel) Daemon.shelf_legible noTarget noDraft 2
  exact ⟨tree, last, done, rows⟩

theorem replicas_agree_handed_on :
    Apart "state.db" ∧ (∀ isNew, (stores isNew).path = "state.db") ∧ (∀ isNew, (stores isNew).isCurrent = true) ∧
      (∀ isNew, (stores isNew).rows.Rooted) ∧ handedOn.settled ∧ ∃ tree next maker stored,
        ((handedOn.seat true).under []).pull 2 = (.ok tree, next) ∧ handedOn.made[0]? = some (maker, stored) ∧
        tree = { stored with version := hashOf 0 } ∧ next.store.rows = Daemon.shelf.rows := by
  have apart : Apart "state.db" := ⟨by decide, by decide, by decide, by decide⟩
  have paths : ∀ isNew, (stores isNew).path = "state.db" := fun _ => rfl
  have current : ∀ isNew, (stores isNew).isCurrent = true := fun _ => rfl
  have rooted : ∀ isNew, (stores isNew).rows.Rooted := by
    intro isNew
    cases isNew with
    | false => exact ⟨Rows.rootRow 0, rfl, rfl⟩
    | true => exact ⟨Rows.rootRow 0, rfl, rfl⟩
  obtain ⟨tree, last, done, rows⟩ := handed_on_pull
  have ours : (handedOn.seat true).control = Workplace.control := by
    rw [handed_on_eq]
    rfl
  have pulled : ((handedOn.seat true).under []).pull 2 = (.ok tree, last.under []) := by
    rw [(Daemon.faultless ours 2).2.2, done]
    rfl
  obtain ⟨number, maker, stored, head, listed, same, _⟩ :=
    ((replicas_agree apart paths current rooted _ (show _ = handedOn from rfl)).2.2 handed_on_settled).2 true [] 2 tree
      (last.under []) pulled
  have first : number = 0 := by
    rw [handed_on_eq] at head
    have only : ((committed.push false []).depot.head? "library" "main") = some 0 := by decide +kernel
    rw [only] at head
    cases head
    rfl
  rw [first] at listed same
  exact ⟨apart, paths, current, rooted, handed_on_settled, tree, last.under [], maker, stored, pulled, listed, same, rows⟩

end Replicas

end Bookmarks
