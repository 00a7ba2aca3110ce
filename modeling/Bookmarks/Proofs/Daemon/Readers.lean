import Bookmarks.Proofs.Daemon.Announcements

/-!
Trees that are loaded while a daemon writes. A reader takes a connection, reads the version and then the rows,
and between two of these a batch can be committed, a version recorded, and the database replaced and opened
again: all that a call does to the store (`apply_leads`, `pull_leads`). A connection is one to the database that
is open, and stays with it when it is replaced.
-/
set_option autoImplicit false

namespace Bookmarks

-- What is done to a store, one step at a time.
inductive Write (ω : Type) where
  | commit (now : Int) (batch : List Operation)
  | snapshot (now : Int) (tree : Tree ω)
  | record (version : String)
  | replace (files : Files ω)
  | reopen (now : Int)

-- A version, the generation of the rows that it was recorded for, and which of the databases that were open one
-- after another held them.
structure Recorded where
  version : String
  generation : Nat
  database : Nat
deriving DecidableEq

-- Which database a tree was read from, what was recorded when its version was read, and the generation of its rows.
structure Sight where
  database : Nat
  known : List Recorded
  generation : Nat
deriving DecidableEq

inductive Reader (ω : Type) where
  | idle
  | connected (database : Nat)
  | informed (database : Nat) (known : List Recorded) (version : String)
  | failed (error : StoreError)
  | answered (sight : Sight) (answer : Except StoreError (Tree ω))

def Reader.outcome {ω : Type} : Reader ω → Option (Except StoreError (Tree ω))
  | .failed error => some (.error error)
  | .answered _ answer => some answer
  | _ => none

-- The databases that are open no more hold the rows of some generation. The fields behind `readers` only record
-- what has happened: the rows before each commit and each replacement, and the versions that were recorded.
structure Readings (ω : Type) where
  store : Store ω
  former : List (Nat × Rows ω)
  readers : Nat → Reader ω
  past : List (Rows ω)
  recorded : List Recorded

namespace Write

variable {ω : Type} [WrittenOrd ω]

def on (store : Store ω) : Write ω → Except StoreError Unit × Store ω
  | .commit now batch => store.commit now batch
  | .snapshot now tree => store.writeSnapshot now tree
  | .record version => store.recordVersion version
  | .replace files => (.ok (), store.withFiles files)
  | .reopen now => store.reopen now

-- It leads to another generation of the rows, if it succeeds.
def advances : Write ω → Bool
  | .commit _ _ => true
  | .reopen _ => true
  | _ => false

def all (store : Store ω) (writes : List (Write ω)) : Store ω :=
  writes.foldl (fun store write => (write.on store).2) store

-- One store is what writes make of another.
def Leads (store next : Store ω) : Prop := ∃ writes, all store writes = next

theorem Leads.refl (store : Store ω) : Leads store store := ⟨[], rfl⟩

theorem Leads.trans {store next last : Store ω} (first : Leads store next) (second : Leads next last) :
    Leads store last := by
  obtain ⟨writes, rfl⟩ := first
  obtain ⟨more, rfl⟩ := second
  exact ⟨writes ++ more, List.foldl_append⟩

theorem Leads.one (store : Store ω) (write : Write ω) : Leads store (write.on store).2 := ⟨[write], rfl⟩

end Write

namespace Daemon

open Write (Leads)

variable {ω σ α : Type} [WrittenOrd ω] {daemon : Daemon ω σ} {now : Int}

theorem Leads.followed {β : Type} {step : Daemon ω σ → Except Failure α × Daemon ω σ}
    {next : α → Daemon ω σ → Except Failure β × Daemon ω σ}
    (first : ∀ daemon, Leads daemon.store (step daemon).2.store)
    (rest : ∀ value daemon, Leads daemon.store (next value daemon).2.store) (daemon : Daemon ω σ) :
    Leads daemon.store (followed step next daemon).2.store := by
  have done := first daemon
  unfold Daemon.followed
  cases answer : step daemon with
  | mk outcome later =>
      rw [answer] at done
      cases outcome with
      | error failure => exact done
      | ok value => exact done.trans (rest value later)

theorem fetch_leads (daemon : Daemon ω σ) : Leads daemon.store daemon.fetch.2.store := by
  unfold fetch
  cases daemon.control.pull daemon.versions daemon.store.allFiles daemon.branch with
  | mk outcome versions =>
      cases outcome with
      | error failure => exact .refl daemon.store
      | ok files => exact .one daemon.store (.replace files)

theorem record_head_store (status : BranchStatus) (daemon : Daemon ω σ) :
    (daemon.recordHead status).2.store = Write.all daemon.store (status.localHash.toList.map .record) := by
  unfold recordHead
  cases status.localHash <;> rfl

theorem record_head_leads (status : BranchStatus) (daemon : Daemon ω σ) :
    Leads daemon.store (daemon.recordHead status).2.store :=
  ⟨_, (record_head_store status daemon).symm⟩

theorem reload_leads (now : Int) (before : Tree ω) (daemon : Daemon ω σ) :
    Leads daemon.store (daemon.reload now before).2.store := by
  rw [reload_store]
  exact .refl daemon.store

theorem adopt_leads (now : Int) (before : Tree ω) (daemon : Daemon ω σ) :
    Leads daemon.store (daemon.adopt now before).2.store := by
  rw [adopt_eq]
  exact Leads.followed (fun daemon => .one daemon.store (.reopen now))
    (fun _ => Leads.followed (fun daemon => .refl daemon.store) fun status =>
      Leads.followed (record_head_leads status) fun _ => reload_leads now before) daemon

theorem settle_leads (daemon : Daemon ω σ) (now : Int) (before after : Tree ω) (message : String) :
    Leads daemon.store (daemon.settle now before after message).2.store := by
  have exported : Leads daemon.store (daemon.exportTree now after message).2.store := by
    rw [export_store]
    exact .one daemon.store (.snapshot now after)
  refine exported.trans ?_
  show Leads _ ((daemon.exportTree now after message).2.recordCommit after
    (daemon.exportTree now after message).1).2.store
  rcases record_commit_store (daemon.exportTree now after message).2 after
    (daemon.exportTree now after message).1 with same | ⟨hash, same⟩
  · rw [same]
    exact .refl _
  · rw [same]
    exact .one _ (.record hash)

-- What calls do to the store are such steps.
theorem apply_leads (daemon : Daemon ω σ) (now : Int) (batch : List Operation) :
    Leads daemon.store (daemon.apply now batch).2.store := by
  rcases apply_cases daemon now batch with ⟨_, _, same⟩ | ⟨_, _, _, _, same⟩ |
    ⟨before, after, store, _, committed, _, same⟩
  · rw [same]
    exact .refl daemon.store
  · rw [same]
    exact .refl daemon.store
  · rw [same]
    have stored : Leads daemon.store store := by
      have one := Leads.one daemon.store (.commit now batch)
      rwa [Write.on, committed] at one
    exact stored.trans (settle_leads { daemon with store } now before after (commitMessage batch))

theorem pull_leads (daemon : Daemon ω σ) (now : Int) : Leads daemon.store (daemon.pull now).2.store := by
  cases loaded : daemon.store.load with
  | error failure =>
      simp only [pull, tree, loaded]
      exact .refl daemon.store
  | ok before =>
      rw [pull_eq daemon loaded]
      refine Leads.followed (fun daemon => .refl daemon.store) (fun status daemon => ?_) daemon
      split
      · exact .refl daemon.store
      · exact Leads.followed fetch_leads (fun _ => adopt_leads now before) daemon

omit [WrittenOrd ω] in
theorem followed_ok {β : Type} {step : Daemon ω σ → Except Failure α × Daemon ω σ}
    {next : α → Daemon ω σ → Except Failure β × Daemon ω σ} {last : Daemon ω σ} {result : β}
    (done : followed step next daemon = (.ok result, last)) :
    ∃ value later, step daemon = (.ok value, later) ∧ next value later = (.ok result, last) := by
  unfold followed at done
  split at done
  · cases done
  · rename_i value later first
    exact ⟨value, later, first, done⟩

omit [WrittenOrd ω] in
theorem status_ok {status : BranchStatus} {next : Daemon ω σ} (asked : daemon.status = (.ok status, next)) :
    ∃ versions, daemon.control.status daemon.versions daemon.branch = (.ok status, versions) ∧
      next = { daemon with versions } := by
  unfold Daemon.status at asked
  cases answer : daemon.control.status daemon.versions daemon.branch with
  | mk outcome versions =>
      rw [answer] at asked
      cases outcome with
      | error failure => cases asked
      | ok value =>
          cases asked
          exact ⟨versions, rfl, rfl⟩

omit [WrittenOrd ω] in
theorem fetch_ok {next : Daemon ω σ} (fetched : daemon.fetch = (.ok (), next)) :
    ∃ files versions, daemon.control.pull daemon.versions daemon.store.allFiles daemon.branch = (.ok files, versions) ∧
      next = { daemon with versions, store := daemon.store.withFiles files } := by
  unfold fetch at fetched
  split at fetched
  · cases fetched
  · rename_i files versions pulled
    cases fetched
    exact ⟨files, versions, pulled, rfl⟩

-- A pull that succeeds puts other files in place, opens the database again and records the version of the head.
theorem pull_writes {tree : Tree ω} {last : Daemon ω σ} (done : daemon.pull now = (.ok tree, last)) :
    ∃ versions files fetched status asked,
      daemon.control.pull versions daemon.store.allFiles daemon.branch = (.ok files, fetched) ∧
      daemon.control.status fetched daemon.branch = (.ok status, asked) ∧
      last.store = Write.all daemon.store (.replace files :: .reopen now :: status.localHash.toList.map .record) := by
  cases loaded : daemon.store.load with
  | error failure =>
      simp only [pull, Daemon.tree, loaded] at done
      cases done
  | ok before =>
      rw [pull_eq daemon loaded] at done
      obtain ⟨position, first, asked, done⟩ := followed_ok done
      obtain ⟨versions, _, rfl⟩ := status_ok asked
      split at done
      · cases done
      · obtain ⟨_, second, taken, done⟩ := followed_ok done
        obtain ⟨files, fetched, pulled, rfl⟩ := fetch_ok taken
        rw [adopt_eq] at done
        obtain ⟨_, opened, reopened, done⟩ := followed_ok done
        obtain ⟨status, _, askedAgain, done⟩ := followed_ok done
        obtain ⟨_, ended, recorded, reloaded⟩ := followed_ok done
        cases show opened = _ from (congrArg Prod.snd reopened).symm
        obtain ⟨again, answered, rfl⟩ := status_ok askedAgain
        refine ⟨versions, files, fetched, status, again, pulled, answered, ?_⟩
        have loadedLast := reload_store ended now before
        have head := congrArg (·.2.store) recorded
        rw [show (ended.reload now before).2 = last from congrArg Prod.snd reloaded] at loadedLast
        rw [loadedLast, ← head, record_head_store]
        rfl

end Daemon

namespace Readings

variable {ω : Type} [WrittenOrd ω]

inductive Move (ω : Type) where
  | connect (reader : Nat)
  | inform (reader : Nat)
  | read (reader : Nat)
  | write (write : Write ω)

def start (store : Store ω) : Readings ω := ⟨store, [], fun _ => .idle, [], []⟩

-- All generations of the rows, the first one first.
def generations (readings : Readings ω) : List (Rows ω) := readings.past ++ [readings.store.rows]

-- The rows of a database, and the generation that they are.
def held (readings : Readings ω) (database : Nat) : Nat × Rows ω :=
  readings.former[database]?.getD (readings.past.length, readings.store.rows)

def put (readings : Readings ω) (n : Nat) (reader : Reader ω) : Readings ω :=
  { readings with readers := Function.update readings.readers n reader }

def connect (readings : Readings ω) (n : Nat) : Readings ω :=
  match readings.readers n with
  | .idle => readings.put n (.connected readings.former.length)
  | _ => readings

def inform (readings : Readings ω) (n : Nat) : Readings ω :=
  match readings.readers n with
  | .connected database =>
    match readings.store.version with
    | .error error => readings.put n (.failed error)
    | .ok version => readings.put n (.informed database readings.recorded version)
  | _ => readings

def read (readings : Readings ω) (n : Nat) : Readings ω :=
  match readings.readers n with
  | .informed database known version =>
    let (generation, rows) := readings.held database
    readings.put n (.answered ⟨database, known, generation⟩ (rows.tree version))
  | _ => readings

-- What a write that succeeded adds to the record.
def noted (readings : Readings ω) : Write ω → Readings ω
  | .commit _ _ => { readings with past := readings.generations }
  | .record version =>
    { readings with
      recorded := ⟨version, readings.past.length, readings.former.length⟩ :: readings.recorded }
  | .reopen _ =>
    { readings with
      former := readings.former ++ [(readings.past.length, readings.store.rows)], past := readings.generations }
  | _ => readings

def write (readings : Readings ω) (write : Write ω) : Readings ω :=
  match write.on readings.store with
  | (.ok (), store) => { readings.noted write with store }
  | (.error _, store) => { readings with store }

def step (readings : Readings ω) : Move ω → Readings ω
  | .connect n => readings.connect n
  | .inform n => readings.inform n
  | .read n => readings.read n
  | .write write => readings.write write

def run (readings : Readings ω) (moves : List (Move ω)) : Readings ω := moves.foldl step readings

variable {readings : Readings ω} {n : Nat}

omit [WrittenOrd ω] in
theorem put_reader (readings : Readings ω) (n : Nat) (reader : Reader ω) : (readings.put n reader).readers n = reader :=
  Function.update_self ..

-- A reader that nothing comes between loads the tree.
theorem load_alone (free : readings.readers n = .idle) :
    ((readings.run [.connect n, .inform n, .read n]).readers n).outcome = some readings.store.load := by
  have connected : readings.connect n = readings.put n (.connected readings.former.length) := by
    simp only [connect, free]
  show ((((readings.connect n).inform n).read n).readers n).outcome = _
  rw [connected]
  cases read : readings.store.version with
  | error error =>
      have failed : readings.store.load = .error error := by
        simp only [Store.load, read]
        rfl
      simp [inform, put, Readings.read, read, failed, Reader.outcome]
  | ok version =>
      have loaded : readings.store.load = readings.store.rows.tree version := by
        simp only [Store.load, read]
        rfl
      simp [inform, put, Readings.read, held, read, loaded, Reader.outcome]

-- Writes that nothing comes between do to the store what they do without any readers.
theorem write_alone (readings : Readings ω) (writes : List (Write ω)) :
    (readings.run (writes.map .write)).store = Write.all readings.store writes := by
  induction writes generalizing readings with
  | nil => rfl
  | cons write writes ih =>
      have first : (readings.write write).store = (write.on readings.store).2 := by
        unfold Readings.write
        cases write.on readings.store with
        | mk outcome store => cases outcome <;> rfl
      show ((readings.write write).run (writes.map .write)).store = _
      rw [ih, first]
      rfl

-- What a reader knows is so.
def Right (readings : Readings ω) : Reader ω → Prop
  | .connected database => database ≤ readings.former.length
  | .informed database known _ => database ≤ readings.former.length ∧ known ⊆ readings.recorded
  | .answered sight answer =>
    (∃ rows version, readings.generations[sight.generation]? = some rows ∧ answer = rows.tree version) ∧
      ∀ record ∈ sight.known, record.generation ≤ sight.generation ↔ record.database ≤ sight.database
  | _ => True

-- A version was recorded for a generation of a database; what an earlier database holds is an earlier generation,
-- and what a later one holds is not.
structure Sound (readings : Readings ω) : Prop where
  former : ∀ (database generation : Nat) (rows : Rows ω), readings.former[database]? = some (generation, rows) →
    readings.past[generation]? = some rows
  recorded : ∀ record ∈ readings.recorded, record.generation ≤ readings.past.length ∧
    record.database ≤ readings.former.length ∧ ∀ (database generation : Nat) (rows : Rows ω),
      readings.former[database]? = some (generation, rows) →
        (record.generation ≤ generation ↔ record.database ≤ database)
  readers : ∀ n, readings.Right (readings.readers n)

theorem sound_start (store : Store ω) : Sound (start store) := by
  refine ⟨?former, ?recorded, ?readers⟩
  case former =>
    intro database generation rows held
    cases held
  case recorded =>
    intro record member
    cases member
  case readers => exact fun n => trivial

omit [WrittenOrd ω] in
theorem generation_later {generations later : List (Rows ω)} {generation : Nat} {rows : Rows ω}
    (first : generations <+: later) (here : generations[generation]? = some rows) :
    later[generation]? = some rows := by
  obtain ⟨more, rfl⟩ := first
  obtain ⟨below, _⟩ := List.getElem?_eq_some_iff.mp here
  rw [List.getElem?_append_left below, here]

-- What has been known stays so when there is more of everything.
theorem Right.grow {next : Readings ω} {reader : Reader ω} (right : readings.Right reader)
    (longer : readings.former.length ≤ next.former.length) (more : readings.recorded ⊆ next.recorded)
    (later : readings.generations <+: next.generations) : next.Right reader := by
  cases reader with
  | idle => trivial
  | connected database => exact Nat.le_trans right longer
  | informed database known version => exact ⟨Nat.le_trans right.1 longer, List.Subset.trans right.2 more⟩
  | failed error => trivial
  | answered sight answer =>
      obtain ⟨⟨rows, version, seen, loaded⟩, exact⟩ := right
      exact ⟨⟨rows, version, generation_later later seen, loaded⟩, exact⟩

theorem Sound.put (sound : Sound readings) {reader : Reader ω} (right : readings.Right reader) (n : Nat) :
    Sound (readings.put n reader) := by
  refine ⟨sound.former, sound.recorded, ?_⟩
  intro m
  by_cases same : m = n
  · subst same
    rw [put_reader]
    exact right
  · rw [show (readings.put n reader).readers m = readings.readers m from Function.update_of_ne same ..]
    exact sound.readers m

theorem Sound.connect (sound : Sound readings) (n : Nat) : Sound (readings.connect n) := by
  unfold Readings.connect
  split
  · refine sound.put ?_ n
    exact Nat.le_refl readings.former.length
  · exact sound

theorem Sound.inform (sound : Sound readings) (n : Nat) : Sound (readings.inform n) := by
  unfold Readings.inform
  split
  · rename_i database connected
    have here := sound.readers n
    rw [connected] at here
    split
    · refine sound.put ?_ n
      trivial
    · refine sound.put ?_ n
      exact ⟨here, List.Subset.refl readings.recorded⟩
  · exact sound

-- The rows that a connection shows are of the generation at which its database was left, and the present one if it
-- is the one that is open.
theorem Sound.held (sound : Sound readings) {database : Nat} (below : database ≤ readings.former.length) :
    readings.generations[(readings.held database).1]? = some (readings.held database).2 ∧
      ∀ record ∈ readings.recorded, record.generation ≤ (readings.held database).1 ↔ record.database ≤ database := by
  cases found : readings.former[database]? with
  | some left =>
      obtain ⟨generation, rows⟩ := left
      have same : readings.held database = (generation, rows) := by rw [Readings.held, found, Option.getD_some]
      rw [same]
      refine ⟨generation_later (List.prefix_append _ _) (sound.former database generation rows found), ?_⟩
      intro record member
      exact (sound.recorded record member).2.2 database generation rows found
  | none =>
      have last : database = readings.former.length := Nat.le_antisymm below (List.getElem?_eq_none_iff.mp found)
      have same : readings.held database = (readings.past.length, readings.store.rows) := by
        rw [Readings.held, found, Option.getD_none]
      rw [same]
      refine ⟨by simp [generations], ?_⟩
      intro record member
      obtain ⟨known, opened, _⟩ := sound.recorded record member
      exact iff_of_true known (last ▸ opened)

theorem Sound.read (sound : Sound readings) (n : Nat) : Sound (readings.read n) := by
  unfold Readings.read
  split
  · rename_i database known version informed
    have here := sound.readers n
    rw [informed] at here
    obtain ⟨below, listed⟩ := here
    obtain ⟨shown, exact⟩ := sound.held below
    refine sound.put ?_ n
    exact ⟨⟨_, version, shown, rfl⟩, fun record member => exact record (listed member)⟩
  · exact sound

-- Nothing that is read has changed.
theorem Sound.same (sound : Sound readings) {store : Store ω} (rows : store.rows = readings.store.rows) :
    Sound { readings with store } := by
  refine ⟨sound.former, sound.recorded, fun n => ?_⟩
  refine (sound.readers n).grow (Nat.le_refl _) (List.Subset.refl _) ?_
  simp only [generations, rows]
  exact List.prefix_refl _

omit [WrittenOrd ω] in
theorem former_cases {former more : List (Nat × Rows ω)} {one entry : Nat × Rows ω} {database : Nat}
    (left : ∀ entry ∈ more, entry = one) (found : (former ++ more)[database]? = some entry) :
    former[database]? = some entry ∨ former.length ≤ database ∧ entry = one := by
  by_cases below : database < former.length
  · rw [List.getElem?_append_left below] at found
    exact Or.inl found
  · have above : former.length ≤ database := Nat.le_of_not_lt below
    rw [List.getElem?_append_right above] at found
    exact Or.inr ⟨above, left entry (List.mem_of_getElem? found)⟩

-- There is another generation, perhaps in another database.
theorem Sound.later (sound : Sound readings) {more : List (Nat × Rows ω)}
    (left : ∀ entry ∈ more, entry = (readings.past.length, readings.store.rows)) (store : Store ω) :
    Sound { readings with store, former := readings.former ++ more, past := readings.generations } := by
  have longer : readings.past.length ≤ readings.generations.length := (List.prefix_append _ _).length_le
  have further : readings.former.length ≤ (readings.former ++ more).length := (List.prefix_append _ _).length_le
  refine ⟨?former, ?recorded, ?readers⟩
  case former =>
    intro database generation rows found
    rcases former_cases left found with earlier | ⟨_, same⟩
    · exact generation_later (List.prefix_append _ _) (sound.former database generation rows earlier)
    · cases same
      simp [generations]
  case recorded =>
    intro record member
    obtain ⟨known, opened, exact⟩ := sound.recorded record member
    refine ⟨Nat.le_trans known longer, Nat.le_trans opened further, ?_⟩
    intro database generation rows found
    rcases former_cases left found with earlier | ⟨above, same⟩
    · exact exact database generation rows earlier
    · cases same
      exact iff_of_true known (Nat.le_trans opened above)
  case readers =>
    intro n
    exact (sound.readers n).grow further (List.Subset.refl _) (List.prefix_append _ _)

theorem Sound.record (sound : Sound readings) {store : Store ω} (rows : store.rows = readings.store.rows)
    (version : String) : Sound { readings.noted (.record version) with store } := by
  have same := sound.same rows
  refine ⟨same.former, ?recorded, ?readers⟩
  case recorded =>
    intro record member
    rcases List.mem_cons.mp member with new | old
    · subst new
      refine ⟨Nat.le_refl _, Nat.le_refl _, ?_⟩
      intro database generation rows found
      -- every other database was left before
      obtain ⟨before, _⟩ := List.getElem?_eq_some_iff.mp (sound.former database generation rows found)
      obtain ⟨below, _⟩ := List.getElem?_eq_some_iff.mp found
      exact iff_of_false (Nat.not_le_of_lt before) (Nat.not_le_of_lt below)
    · exact sound.recorded record old
  case readers =>
    intro n
    exact (same.readers n).grow (Nat.le_refl _) (List.subset_cons_self _ _) (List.prefix_refl _)

-- The rows stay when a write fails, or leads to no other generation.
theorem on_rows {store next : Store ω} {write : Write ω} {outcome : Except StoreError Unit}
    (done : write.on store = (outcome, next)) (plain : outcome = .ok () → write.advances = false) :
    next.rows = store.rows := by
  cases write with
  | commit now batch =>
      cases outcome with
      | error failure => rw [Store.commit_error done]
      | ok _ => cases plain rfl
  | snapshot now tree =>
      have kept := (Store.write_snapshot_keeps store now tree).database
      rw [show (store.writeSnapshot now tree).2 = next from congrArg Prod.snd done] at kept
      rw [Store.rows, Store.rows, kept]
  | record version =>
      have kept := (Store.record_version_keeps store version).database
      rw [show (store.recordVersion version).2 = next from congrArg Prod.snd done] at kept
      rw [Store.rows, Store.rows, kept]
  | replace files =>
      cases done
      rfl
  | reopen now =>
      cases outcome with
      | error failure =>
          simp only [Write.on, Store.reopen] at done
          split at done
          · cases done
          · cases done
            rfl
      | ok _ => cases plain rfl

theorem Sound.write (sound : Sound readings) (write : Write ω) : Sound (readings.write write) := by
  unfold Readings.write
  cases done : write.on readings.store with
  | mk outcome store =>
      cases outcome with
      | error failure => exact sound.same (on_rows done (by simp))
      | ok _ =>
          cases write with
          | commit now batch =>
              have later := sound.later (List.forall_mem_nil _) store
              rwa [List.append_nil] at later
          | snapshot now tree => exact sound.same (on_rows done fun _ => rfl)
          | record version => exact sound.record (on_rows done fun _ => rfl) version
          | replace files => exact sound.same (on_rows done fun _ => rfl)
          | reopen now => exact sound.later (List.forall_mem_singleton.mpr rfl) store

theorem Sound.step (sound : Sound readings) (move : Move ω) : Sound (readings.step move) := by
  cases move with
  | connect n => exact sound.connect n
  | inform n => exact sound.inform n
  | read n => exact sound.read n
  | write write => exact sound.write write

theorem Sound.run (sound : Sound readings) (moves : List (Move ω)) : Sound (readings.run moves) := by
  induction moves generalizing readings with
  | nil => exact sound
  | cons move moves ih => exact ih (sound.step move)

/-- However loads and writes come between each other, a tree that is loaded has the rows of one generation. Of the
versions that were recorded by the time its own was read, it is not behind those, and only those, whose database
had not been opened later than its connection. -/
theorem loaded_generation (store : Store ω) (moves : List (Move ω)) {n : Nat} {sight : Sight} {tree : Tree ω}
    (answered : ((start store).run moves).readers n = .answered sight (.ok tree)) :
    (∃ rows, ((start store).run moves).generations[sight.generation]? = some rows ∧
      rows.tree tree.version = .ok tree) ∧
    ∀ record ∈ sight.known, record.generation ≤ sight.generation ↔ record.database ≤ sight.database := by
  have sound := (sound_start store).run moves
  have right := sound.readers n
  rw [answered] at right
  obtain ⟨⟨rows, version, shown, loaded⟩, exact⟩ := right
  refine ⟨⟨rows, shown, ?_⟩, exact⟩
  obtain ⟨same, reloaded, named, _⟩ := Rows.tree_ok (Rows.legible_of_tree loaded.symm) version
  cases loaded.trans reloaded
  rw [named, reloaded]

-- A branch that another new profile has pushed to.
def upstream : VersionControl (Content ℚ) Bool where
  commit fetched _ _ _ := (.ok .deferred, fetched)
  push fetched := (.ok (), fetched)
  pull _ files _ := (.ok (files.insert "state.db" (.database (Store.initialized ⟨∅, 0⟩ 7))), true)
  status fetched _ := (.ok { localHash := some (if fetched then "theirs" else "ours") }, fetched)

def follower : Daemon ℚ Bool := Daemon.start Daemon.newcomer.store "main" upstream false

def theirs : Files ℚ := follower.store.allFiles.insert "state.db" (.database (Store.initialized ⟨∅, 0⟩ 7))

-- A pull, with a reader whose connection is older than the pull, and one that comes when the database is open again.
def race : List (Move ℚ) :=
  [.connect 0, .write (.replace theirs), .write (.reopen 2), .connect 1, .write (.record "theirs"), .inform 0,
    .inform 1, .read 0, .read 1]

def raced : Readings ℚ := (start follower.store).run race

theorem race_pulls : (follower.pull 2).1.isOk = true ∧ raced.store = (follower.pull 2).2.store := by
  have succeeds : (follower.pull 2).1.isOk = true := by decide +kernel
  refine ⟨succeeds, ?_⟩
  cases pulled : follower.pull 2 with
  | mk answer last =>
      cases answer with
      | error failure =>
          rw [pulled] at succeeds
          cases succeeds
      | ok tree =>
          obtain ⟨versions, files, fetched, status, asked, taken, told, same⟩ := Daemon.pull_writes pulled
          cases taken
          cases told
          rw [same]
          rfl

-- The version of a tree, and when its root was made.
def essence (answer : Except StoreError (Tree ℚ)) : Option (String × Option Int) :=
  answer.toOption.map fun tree => (tree.version, (tree.nodes.get? rootId).map (·.createdAt))

def sightings : Reader ℚ → Option (Sight × Option (String × Option Int))
  | .answered sight answer => some (sight, essence answer)
  | _ => none

theorem answered_of_sightings {reader : Reader ℚ} {sight : Sight} {version : String} {born : Option Int}
    (seen : sightings reader = some (sight, some (version, born))) :
    ∃ tree, reader = .answered sight (.ok tree) ∧ tree.version = version ∧
      (tree.nodes.get? rootId).map (·.createdAt) = born := by
  cases reader with
  | answered also answer =>
      cases answer with
      | error failure => cases seen
      | ok tree =>
          cases seen
          exact ⟨tree, rfl, rfl, rfl⟩
  | idle => cases seen
  | connected database => cases seen
  | informed database known version => cases seen
  | failed error => cases seen

theorem raced_first :
    sightings (raced.readers 0) = some (⟨0, [⟨"theirs", 1, 1⟩], 0⟩, some ("theirs", some 0)) := by
  decide +kernel

theorem raced_second :
    sightings (raced.readers 1) = some (⟨1, [⟨"theirs", 1, 1⟩], 1⟩, some ("theirs", some 7)) := by
  decide +kernel

-- The one that came later is not behind the version that it shows.
theorem loaded_generation_raced :
    ∃ sight tree rows, raced.readers 1 = .answered sight (.ok tree) ∧ sight.known = [⟨"theirs", 1, 1⟩] ∧
      1 ≤ sight.generation ∧ raced.generations[sight.generation]? = some rows ∧ rows.tree "theirs" = .ok tree := by
  obtain ⟨tree, answered, named, _⟩ := answered_of_sightings raced_second
  obtain ⟨⟨rows, held, loaded⟩, exact⟩ := loaded_generation follower.store race answered
  rw [named] at loaded
  exact ⟨_, tree, rows, answered, rfl, (exact _ List.mem_cons_self).mpr (Nat.le_refl 1), held, loaded⟩

-- The one that came before the pull shows the version of the second generation with the rows of the first.
theorem newer_version_loaded :
    (follower.pull 2).1.isOk = true ∧ raced.store = (follower.pull 2).2.store ∧
    ∃ sight tree, raced.readers 0 = .answered sight (.ok tree) ∧ ⟨tree.version, 1, 1⟩ ∈ sight.known ∧
      ∀ generation rows, 1 ≤ generation → raced.generations[generation]? = some rows →
        rows.tree tree.version ≠ .ok tree := by
  obtain ⟨succeeds, same⟩ := race_pulls
  obtain ⟨tree, answered, named, made⟩ := answered_of_sightings raced_first
  refine ⟨succeeds, same, _, tree, answered, ?known, ?behind⟩
  case known =>
    rw [named]
    exact List.mem_cons_self
  case behind =>
    intro generation rows later here loaded
    have count : raced.past.length = 1 := by decide +kernel
    have last : generation = raced.past.length := by
      obtain ⟨below, _⟩ := List.getElem?_eq_some_iff.mp here
      rw [generations, List.length_append, List.length_singleton] at below
      omega
    have present : rows = raced.store.rows := by
      rw [generations, last, List.getElem?_concat_length] at here
      exact (Option.some.inj here).symm
    have other : essence (raced.store.rows.tree "theirs") = some ("theirs", some 7) := by decide +kernel
    rw [named, present] at loaded
    have mine : essence (.ok tree) = some (tree.version, (tree.nodes.get? rootId).map (·.createdAt)) := rfl
    rw [loaded, mine, made] at other
    simp at other

end Readings

end Bookmarks
