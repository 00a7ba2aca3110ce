import Bookmarks.Proofs.Daemon.Effects
import Bookmarks.Proofs.Hub.History
import Mathlib.Logic.Function.Basic

/-!
Batches that are under way at the same time. Each call goes through its stages one by one, and between
two of them any other call can take one, and any subscriber can come, read or go. A call that nothing
comes between does what `Daemon.apply` does (`run_alone`).
-/
set_option autoImplicit false

namespace Bookmarks

variable {ω σ : Type} [WrittenOrd ω]

-- How far a call has come that holds the write lock.
inductive Stage (ω : Type) where
  | entered
  | loaded (before : Tree ω)
  | checked (before : Tree ω)
  | committed (before : Tree ω)
  | stored (before after : Tree ω)
  | exported (before after : Tree ω) (status : CommitStatus)
  | recorded (before after : Tree ω) (status : CommitStatus)

inductive Call (ω : Type) where
  | asked
  | busy (stage : Stage ω)
  | leaving (answer : Except Failure (Applied ω))
  | answered (answer : Except Failure (Applied ω))

-- What a call does next, and the daemon that it leaves.
def Stage.work (daemon : Daemon ω σ) (now : Int) (batch : List Operation) : Stage ω → Call ω × Daemon ω σ
  | .entered =>
    match daemon.tree with
    | .error failure => (.leaving (.error failure), daemon)
    | .ok before => (.busy (.loaded before), daemon)
  | .loaded before =>
    match before.project batch with
    | .error rejection => (.leaving (.error (.rejected rejection)), daemon)
    | .ok _ => (.busy (.checked before), daemon)
  | .checked before =>
    match daemon.store.commit now batch with
    | (.error e, store) => (.leaving (.error (.store e)), { daemon with store })
    | (.ok (), store) => (.busy (.committed before), { daemon with store })
  | .committed before =>
    match daemon.store.load with
    | .error e => (.leaving (.error (.store e)), daemon)
    | .ok after => (.busy (.stored before after), daemon)
  | .stored before after =>
    let (status, next) := daemon.exportTree now after (commitMessage batch)
    (.busy (.exported before after status), next)
  | .exported before after status =>
    let (tree, next) := daemon.recordCommit after status
    (.busy (.recorded before tree status), next)
  | .recorded before tree status =>
    let changedIds := tree.changedSince before
    (.leaving (.ok ⟨tree, status, changedIds⟩), daemon.announce now tree changedIds)

-- The batch is in the database.
def Stage.hasCommitted : Stage ω → Bool
  | .entered => false
  | .loaded _ => false
  | .checked _ => false
  | _ => true

namespace Call

def holdsLock : Call ω → Bool
  | .asked => false
  | .busy _ => true
  | .leaving _ => true
  | .answered _ => false

def hasCommitted : Call ω → Bool
  | .asked => false
  | .busy stage => stage.hasCommitted
  | .leaving answer => answer.isOk
  | .answered answer => answer.isOk

end Call

-- The last two fields only record what has happened: the batches in the order in which they were
-- committed, each with its time, and what became of the hub.
structure Traffic (ω σ : Type) where
  daemon : Daemon ω σ
  writer : Option Nat
  calls : Nat → Call ω
  commits : List (Nat × Int)
  heard : Hub.History Change

inductive Move where
  | call (id : Nat) (now : Int)
  | visit (visit : Hub.Visit)

namespace Traffic

def quiet (daemon : Daemon ω σ) (heard : Hub.History Change) : Traffic ω σ :=
  ⟨daemon, none, fun _ => .asked, [], heard⟩

-- A batch is committed at the end of its transaction.
def commitsOf (id : Nat) (now : Int) : Call ω → List (Nat × Int)
  | .busy (.committed _) => [(id, now)]
  | _ => []

def announcements (hub : Hub Change) (now : Int) : Stage ω → Hub.History Change
  | .recorded before tree _ =>
    let change : Change := ⟨tree.version, tree.changedSince before, now⟩
    [.broadcast (some change) (hub.broadcastWritten (some change)).1]
  | _ => []

def work (traffic : Traffic ω σ) (id : Nat) (now : Int) (batch : List Operation) (stage : Stage ω) : Traffic ω σ :=
  let (next, daemon) := stage.work traffic.daemon now batch
  { traffic with
    daemon, calls := Function.update traffic.calls id next, commits := traffic.commits ++ commitsOf id now next
    heard := announcements traffic.daemon.hub now stage ++ traffic.heard }

-- A call that waits for the lock stays where it is, and so does one that is done.
def call (traffic : Traffic ω σ) (id : Nat) (now : Int) (batch : List Operation) : Traffic ω σ :=
  let move (next : Call ω) : Nat → Call ω := Function.update traffic.calls id next
  match traffic.calls id with
  | .asked =>
    if batch.isEmpty then
      { traffic with calls := move (.answered (.error (.invalidRequest "ops must not be empty"))) }
    else if traffic.writer.isNone then { traffic with writer := some id, calls := move (.busy .entered) }
    else traffic
  | .busy stage => traffic.work id now batch stage
  | .leaving answer => { traffic with writer := none, calls := move (.answered answer) }
  | .answered _ => traffic

def visit (traffic : Traffic ω σ) (visit : Hub.Visit) : Traffic ω σ :=
  let (entry, hub) := traffic.daemon.hub.visit visit
  { traffic with daemon := { traffic.daemon with hub }, heard := entry :: traffic.heard }

def step (batches : Nat → List Operation) (traffic : Traffic ω σ) : Move → Traffic ω σ
  | .call id now => traffic.call id now (batches id)
  | .visit visit => traffic.visit visit

def run (batches : Nat → List Operation) (traffic : Traffic ω σ) (moves : List Move) : Traffic ω σ :=
  moves.foldl (step batches) traffic

variable {batches : Nat → List Operation} {traffic : Traffic ω σ} {id : Nat} {now : Int} {batch : List Operation}
  {stage : Stage ω} {answer : Except Failure (Applied ω)} {daemon next : Daemon ω σ} {steps : Nat}

-- From its stage on a call works this many steps, and then it has its answer.
inductive Works (now : Int) (batch : List Operation) :
    Nat → Daemon ω σ → Stage ω → Except Failure (Applied ω) → Daemon ω σ → Prop
  | last {daemon next : Daemon ω σ} {stage : Stage ω} {answer : Except Failure (Applied ω)}
      (worked : stage.work daemon now batch = (.leaving answer, next)) : Works now batch 1 daemon stage answer next
  | more {daemon between next : Daemon ω σ} {stage later : Stage ω} {answer : Except Failure (Applied ω)} {steps : Nat}
      (worked : stage.work daemon now batch = (.busy later, between))
      (works : Works now batch steps between later answer next) : Works now batch (steps + 1) daemon stage answer next

theorem works_settle (daemon : Daemon ω σ) (now : Int) (batch : List Operation) (before after : Tree ω) :
    Works now batch 3 daemon (.stored before after) (.ok (daemon.settle now before after (commitMessage batch)).1)
      (daemon.settle now before after (commitMessage batch)).2 :=
  .more rfl (.more rfl (.last rfl))

theorem works_apply (daemon : Daemon ω σ) (now : Int) (some : batch.isEmpty = false) :
    ∃ steps, Works now batch steps daemon .entered (daemon.apply now batch).1 (daemon.apply now batch).2 := by
  have checked : daemon.check batch = daemon.tree >>= fun before =>
      (before.project batch).mapError .rejected >>= fun _ => pure before := by
    simp only [Daemon.check, some]
    rfl
  cases loaded : daemon.tree with
  | error failure =>
      rw [loaded] at checked
      have result : daemon.apply now batch = (.error failure, daemon) := by
        simp only [Daemon.apply, checked, bind_of_error rfl]
      exact ⟨1, .last (by rw [Stage.work, loaded, result])⟩
  | ok before =>
      rw [loaded, bind_of_ok rfl] at checked
      have entered : Stage.work daemon now batch .entered = (.busy (.loaded before), daemon) := by
        rw [Stage.work, loaded]
      cases projected : before.project batch with
      | error rejection =>
          rw [projected] at checked
          have result : daemon.apply now batch = (.error (.rejected rejection), daemon) := by
            simp only [Daemon.apply, checked, Except.mapError, bind_of_error rfl]
          exact ⟨2, .more entered (.last (by rw [Stage.work, projected, result]))⟩
      | ok p =>
          rw [projected] at checked
          have accepted : Stage.work daemon now batch (.loaded before) = (.busy (.checked before), daemon) := by
            rw [Stage.work, projected]
          have result : daemon.check batch = .ok before := checked
          cases stored : daemon.store.commit now batch with
          | mk outcome store =>
              cases outcome with
              | error failure =>
                  refine ⟨3, .more entered (.more accepted (.last ?_))⟩
                  simp only [Stage.work, stored, Daemon.apply, result, Store.apply]
              | ok _ =>
                  have committed : Stage.work daemon now batch (.checked before) =
                      (.busy (.committed before), { daemon with store }) := by
                    rw [Stage.work, stored]
                  cases reloaded : store.load with
                  | error failure =>
                      refine ⟨4, .more entered (.more accepted (.more committed (.last ?_)))⟩
                      simp only [Stage.work, stored, Daemon.apply, result, Store.apply, reloaded]
                  | ok after =>
                      have shown : Stage.work { daemon with store } now batch (.committed before) =
                          (.busy (.stored before after), { daemon with store }) := by
                        simp only [Stage.work, reloaded]
                      have settled := works_settle { daemon with store } now batch before after
                      refine ⟨7, .more entered (.more accepted (.more committed (.more shown ?_)))⟩
                      simpa only [Daemon.apply, result, Store.apply, stored, reloaded] using settled

theorem work_self (traffic : Traffic ω σ) (id : Nat) (now : Int) (batch : List Operation) (stage : Stage ω) :
    (traffic.work id now batch stage).calls id = (stage.work traffic.daemon now batch).1 :=
  Function.update_self ..

theorem Works.run (works : Works now (batches id) steps traffic.daemon stage answer next)
    (here : traffic.calls id = .busy stage) :
    (traffic.run batches (List.replicate (steps + 1) (.call id now))).calls id = .answered answer ∧
      (traffic.run batches (List.replicate (steps + 1) (.call id now))).daemon = next := by
  generalize starts : traffic.daemon = daemon at works
  induction works generalizing traffic with
  | @last _ _ stage answer worked =>
      subst starts
      have left : (traffic.work id now (batches id) stage).calls id = .leaving answer := by
        rw [work_self, worked]
      have first : traffic.step batches (.call id now) = traffic.work id now (batches id) stage := by
        simp only [step, call, here]
      have second : (traffic.work id now (batches id) stage).step batches (.call id now) =
          { traffic.work id now (batches id) stage with
            writer := none
            calls := Function.update (traffic.work id now (batches id) stage).calls id (.answered answer) } := by
        simp only [step, call, left]
      show ((traffic.step batches (.call id now)).step batches (.call id now)).calls id = _ ∧
        ((traffic.step batches (.call id now)).step batches (.call id now)).daemon = _
      rw [first, second]
      exact ⟨Function.update_self .., congrArg Prod.snd worked⟩
  | @more _ _ _ stage later answer steps worked works ih =>
      subst starts
      have first : traffic.step batches (.call id now) = traffic.work id now (batches id) stage := by
        simp only [step, call, here]
      rw [List.replicate_succ]
      show ((traffic.step batches (.call id now)).run batches _).calls id = _ ∧
        ((traffic.step batches (.call id now)).run batches _).daemon = _
      rw [first]
      exact ih (by rw [work_self, worked]) (congrArg Prod.snd worked)

-- A call that nothing comes between is a batch that is applied.
theorem run_alone (asked : traffic.calls id = .asked) (free : traffic.writer = none) (now : Int) :
    ∃ steps, (traffic.run batches (List.replicate steps (.call id now))).calls id =
        .answered (traffic.daemon.apply now (batches id)).1 ∧
      (traffic.run batches (List.replicate steps (.call id now))).daemon =
        (traffic.daemon.apply now (batches id)).2 := by
  cases empty : (batches id).isEmpty with
  | true =>
      have result : traffic.daemon.apply now (batches id) =
          (.error (.invalidRequest "ops must not be empty"), traffic.daemon) := by
        simp only [Daemon.apply, Daemon.check, empty]
        rfl
      refine ⟨1, ?_⟩
      show (traffic.step batches (.call id now)).calls id = _ ∧ (traffic.step batches (.call id now)).daemon = _
      simp [step, call, asked, empty, result]
  | false =>
      obtain ⟨steps, works⟩ := works_apply traffic.daemon now empty
      have enter : traffic.step batches (.call id now) =
          { traffic with writer := some id, calls := Function.update traffic.calls id (.busy .entered) } := by
        simp [step, call, asked, empty, free]
      refine ⟨steps + 1 + 1, ?_⟩
      rw [List.replicate_succ]
      show ((traffic.step batches (.call id now)).run batches _).calls id = _ ∧
        ((traffic.step batches (.call id now)).run batches _).daemon = _
      rw [enter]
      exact Works.run works (Function.update_self ..)

end Traffic

end Bookmarks
