import Bookmarks.Proofs.Daemon.Commits
import Bookmarks.Proofs.Daemon.Shelter

/-!
All that a daemon commits in the course of a run, in which any call to the version control can fail, others use the
remotes, and anything can be in the way of an export or a recording.
-/
set_option autoImplicit false

namespace Bookmarks

open Store (Apart)
open Workplace (Rests Commits Valid)

variable {ω : Type} [WrittenOrd ω]

theorem Store.version_of_set_file {store : Store ω} {other : String} (different : ¬ other = sidecar store.path)
    (content : Option (Content ω)) :
    ({ store with files := Handling.setFile store.files other content } : Store ω).version = store.version := by
  have kept : (Handling.setFile store.files other content).get? (sidecar store.path) =
      store.files.get? (sidecar store.path) := by
    cases content with
    | none => rw [Handling.setFile, Keyed.get?_erase, if_neg different]
    | some content => rw [Handling.setFile, Keyed.get?_insert, if_neg different]
  refine Store.version_of_same_file rfl ?_
  unfold Store.file? Store.allFiles
  by_cases current : store.isCurrent = true
  · rw [if_pos current, if_pos current, Keyed.get?_insert, Keyed.get?_insert, kept]
  · rw [if_neg current, if_neg current]
    exact kept

inductive Event (ω : Type) where
  | apply (mishaps : List (Option Mishap)) (now : Int) (batch : List Operation)
  | push (mishaps : List (Option Mishap))
  | pull (mishaps : List (Option Mishap)) (now : Int)
  -- Others make a commit, move a branch, or leave or remove a file next to the database.
  | commit (parents : List Nat) (files : Files ω) (message : String)
  | move (remote branch : String) (number : Nat)
  | litter (path : String) (content : Option (Content ω))

structure Ledger (ω : Type) [WrittenOrd ω] where
  daemon : Daemon ω (Workplace (Content ω))
  made : List (Commit (Content ω))
  -- The open database has been the one at its path all along.
  attached : Prop
  -- The hash of every commit was recorded, and no pull failed that had moved on to another commit.
  recorded : Prop

namespace Ledger

def start (daemon : Daemon ω (Workplace (Content ω))) : Ledger ω :=
  { daemon, made := []
    attached := daemon.store.isCurrent = true
    recorded := daemon.store.version = .ok (versionAt daemon.versions.tip) }

-- The commits that are there now and were not there before were made by the daemon.
def after (ledger : Ledger ω) (next : Daemon ω (Workplace (Content ω))) : Ledger ω :=
  let count := ledger.daemon.versions.depot.history.commits.length
  { ledger with daemon := next, made := ledger.made ++ next.versions.depot.history.commits.drop count }

def apply (ledger : Ledger ω) (mishaps : List (Option Mishap)) (now : Int) (batch : List Operation) : Ledger ω :=
  let next := ((ledger.daemon.under mishaps).apply now batch).2.afterwards
  { ledger.after next with
    recorded := ledger.recorded ∧ ∀ number, ledger.daemon.versions.depot.history.commits.length ≤ number →
      number < next.versions.depot.history.commits.length → next.store.version = .ok (hashOf number) }

def push (ledger : Ledger ω) (mishaps : List (Option Mishap)) : Ledger ω :=
  ledger.after (ledger.daemon.under mishaps).push.2.afterwards

def pull (ledger : Ledger ω) (mishaps : List (Option Mishap)) (now : Int) : Ledger ω :=
  let (answer, next) := (ledger.daemon.under mishaps).pull now
  { ledger.after next.afterwards with
    attached := ledger.attached ∧ next.store.isCurrent = true
    recorded := ledger.recorded ∧ (answer.isOk = true ∨ next.versions.1.tip = ledger.daemon.versions.tip) }

def others (ledger : Ledger ω) (depot : Depot (Content ω)) : Ledger ω :=
  { ledger with daemon := { ledger.daemon with versions := { ledger.daemon.versions with depot } } }

def litter (ledger : Ledger ω) (path : String) (content : Option (Content ω)) : Ledger ω :=
  if path = ledger.daemon.store.path ∨ path = sidecar ledger.daemon.store.path then ledger
  else
    let files := Handling.setFile ledger.daemon.store.files path content
    { ledger with daemon := { ledger.daemon with store := { ledger.daemon.store with files } } }

def step (ledger : Ledger ω) : Event ω → Ledger ω
  | .apply mishaps now batch => ledger.apply mishaps now batch
  | .push mishaps => ledger.push mishaps
  | .pull mishaps now => ledger.pull mishaps now
  | .commit parents files message =>
    let depot := ledger.daemon.versions.depot
    ledger.others { depot with history := (depot.history.add parents files message).2 }
  | .move remote branch number => ledger.others (ledger.daemon.versions.depot.moved remote branch number)
  | .litter path content => ledger.litter path content

def run (ledger : Ledger ω) (events : List (Event ω)) : Ledger ω := events.foldl step ledger

structure Sound (path : String) (ledger : Ledger ω) : Prop where
  place : ledger.daemon.store.path = path
  valid : Valid ledger.daemon.versions
  current : ledger.attached → ledger.daemon.store.isCurrent = true
  version : ledger.attached → ledger.recorded →
    ledger.daemon.store.version = .ok (versionAt ledger.daemon.versions.tip)
  consistent : ledger.attached → ∀ commit ∈ ledger.made, Consistent path commit
  dated : ledger.attached → ledger.recorded → ∀ commit ∈ ledger.made, Dated commit

variable {path : String} {ledger : Ledger ω}

theorem Sound.start {daemon : Daemon ω (Workplace (Content ω))} (valid : Valid daemon.versions) :
    Sound daemon.store.path (start daemon) :=
  ⟨rfl, valid, id, fun _ => id, fun _ _ impossible => (by cases impossible), fun _ _ _ impossible => by cases impossible⟩

theorem made_after {next : Daemon ω (Workplace (Content ω))}
    (history : next.versions.depot.history = ledger.daemon.versions.depot.history) :
    (ledger.after next).made = ledger.made := by
  rw [after, history, List.drop_length, List.append_nil]

theorem Sound.apply (apart : Apart path) (sound : Sound path ledger) (mishaps : List (Option Mishap)) (now : Int)
    (batch : List Operation) : Sound path (ledger.apply mishaps now batch) := by
  have place := sound.place
  subst place
  obtain ⟨place, current, ways⟩ := Daemon.apply_made apart mishaps now batch rfl
  unfold Ledger.apply
  generalize ((ledger.daemon.under mishaps).apply now batch).2.afterwards = next at place current ways ⊢
  rcases ways with ⟨rests, version⟩ | ⟨files, tree, commits, snapshot, version, consistent⟩
  · have made : (ledger.after next).made = ledger.made := made_after (congrArg Depot.history rests.depot)
    refine ⟨place, rests.valid sound.valid, fun attached => current.trans (sound.current attached), ?_, ?_, ?_⟩
    · intro attached recorded
      show next.store.version = .ok (versionAt next.versions.tip)
      rw [rests.tip]
      exact version (sound.version attached recorded.1)
    · simp only [made]
      exact sound.consistent
    · simp only [made]
      exact fun attached recorded => sound.dated attached recorded.1
  · obtain ⟨commit, one, parents, staged⟩ := commits.one sound.valid
    have made : (ledger.after next).made = ledger.made ++ [commit] := congrArg (ledger.made ++ ·) one
    have snapshotStaged : commit.files.get? snapshotFile = some (.snapshot tree now) :=
      (staged snapshotFile (by simp)).trans snapshot
    simp only [made]
    refine ⟨place, commits.valid sound.valid, fun attached => current.trans (sound.current attached), ?_, ?_, ?_⟩
    · intro _ recorded
      have longer : ledger.daemon.versions.depot.history.commits.length < next.versions.depot.history.commits.length := by
        have count := congrArg List.length one
        rw [List.length_drop, List.length_singleton] at count
        omega
      show next.store.version = .ok (versionAt next.versions.tip)
      rw [commits.tip]
      exact recorded.2 _ (Nat.le_refl _) longer
    · intro attached other member
      rcases List.mem_append.mp member with earlier | last
      · exact sound.consistent attached other earlier
      · rw [List.mem_singleton.mp last]
        obtain ⟨database, there, shown⟩ := consistent (sound.current attached)
        exact ⟨database, tree, now, (staged _ (by simp)).trans there, snapshotStaged, shown⟩
    · intro attached recorded other member
      rcases List.mem_append.mp member with earlier | last
      · exact sound.dated attached recorded.1 other earlier
      · rw [List.mem_singleton.mp last]
        have same := version.symm.trans (sound.version attached recorded.1)
        exact ⟨tree, now, ledger.daemon.versions.tip, parents, snapshotStaged, Except.ok.inj same⟩

theorem Sound.pull (apart : Apart path) (sound : Sound path ledger) (mishaps : List (Option Mishap)) (now : Int) :
    Sound path (ledger.pull mishaps now) := by
  have place := sound.place
  subst place
  cases done : (ledger.daemon.under mishaps).pull now with
  | mk answer next =>
      obtain ⟨place, depot, valid, version, _⟩ := Daemon.pull_made apart mishaps now done
      have made : (ledger.after next.afterwards).made = ledger.made := made_after (congrArg Depot.history depot)
      simp only [Ledger.pull, done, made]
      refine ⟨place, valid sound.valid, fun attached => attached.2, ?_, fun attached => sound.consistent attached.1,
        fun attached recorded => sound.dated attached.1 recorded.1⟩
      intro attached recorded
      exact version attached.2 recorded.2 (sound.version attached.1 recorded.1)

theorem Sound.push (sound : Sound path ledger) (mishaps : List (Option Mishap)) : Sound path (ledger.push mishaps) := by
  obtain ⟨valid, tip, history⟩ := Workplace.push_under_valid sound.valid mishaps.head?.join
  have made : (ledger.push mishaps).made = ledger.made := made_after history
  refine ⟨sound.place, valid, sound.current, ?_, ?_, ?_⟩
  · intro attached recorded
    show ledger.daemon.store.version = .ok (versionAt (ledger.daemon.versions.pushUnder mishaps.head?.join).2.tip)
    rw [tip]
    exact sound.version attached recorded
  · rw [made]
    exact sound.consistent
  · rw [made]
    exact sound.dated

theorem Sound.others (sound : Sound path ledger) {depot : Depot (Content ω)}
    (valid : Valid { ledger.daemon.versions with depot }) : Sound path (ledger.others depot) :=
  ⟨sound.place, valid, sound.current, sound.version, sound.consistent, sound.dated⟩

theorem Sound.litter (sound : Sound path ledger) (other : String) (content : Option (Content ω)) :
    Sound path (ledger.litter other content) := by
  unfold Ledger.litter
  split
  · exact sound
  · rename_i apart
    refine ⟨sound.place, sound.valid, sound.current, ?_, sound.consistent, sound.dated⟩
    intro attached recorded
    rw [← sound.version attached recorded]
    exact Store.version_of_set_file (fun same => apart (Or.inr same)) content

theorem Sound.step (apart : Apart path) (sound : Sound path ledger) (event : Event ω) :
    Sound path (ledger.step event) := by
  cases event with
  | apply mishaps now batch => exact sound.apply apart mishaps now batch
  | push mishaps => exact sound.push mishaps
  | pull mishaps now => exact sound.pull apart mishaps now
  | commit parents files message => exact sound.others (sound.valid.added parents files message)
  | move remote branch number => exact sound.others (sound.valid.moved remote branch number)
  | litter other content => exact sound.litter other content

theorem Sound.run (apart : Apart path) (sound : Sound path ledger) (events : List (Event ω)) :
    Sound path (ledger.run events) := by
  induction events generalizing ledger with
  | nil => exact sound
  | cons event rest ih => exact ih (sound.step apart event)

end Ledger

/-- As long as the open database is the one at its path, every commit of a run has an export of just the bookmarks in its
database. If besides the hash of every commit was recorded and no pull failed that had moved on to another commit,
that export has the hash of the parent for its version, or says that there is none. Only a pull that could not open
what it had put in place leaves another file at the path than the open database. The path is apart from those of the
files that are written next to it, and the journal mode is one that keeps the database a single file, as the default,
`DELETE`, does: in another one a commit may lack what is not yet in that file. -/
theorem commits_consistent_while_attached {daemon : Daemon ω (Workplace (Content ω))} (apart : Apart daemon.store.path)
    (valid : Valid daemon.versions) (events : List (Event ω)) {last : Ledger ω}
    (ran : (Ledger.start daemon).run events = last) :
    (last.attached → ∀ commit ∈ last.made, Consistent daemon.store.path commit) ∧
    (last.attached → last.recorded → ∀ commit ∈ last.made, Dated commit) ∧
    (last.attached → ∀ mishaps now, ¬ (last.pull mishaps now).attached → ∃ files failure,
      (last.daemon.store.withFiles files).reopen now = (.error failure, last.daemon.store.withFiles files)) := by
  have sound := (Ledger.Sound.start valid).run apart events
  rw [ran] at sound
  refine ⟨sound.consistent, sound.dated, ?_⟩
  intro attached mishaps now detached
  have place : Apart last.daemon.store.path := sound.place ▸ apart
  cases done : (last.daemon.under mishaps).pull now with
  | mk answer next =>
      simp only [Ledger.pull, done] at detached
      have closed : next.store.isCurrent = false := Bool.eq_false_iff.mpr fun current => detached ⟨attached, current⟩
      obtain ⟨_, _, _, _, ways⟩ := Daemon.pull_made place mishaps now done
      obtain ⟨files, failure, _, failed⟩ := ways (sound.current attached) closed
      exact ⟨files, failure, failed⟩

namespace Ledger

def shelfTree : Tree ℚ :=
  Tree.ofNodes uninitialized
    [⟨rootId, .folder, "Root", none, none, 0, 0, 0⟩, ⟨"x", .bookmark, "A", some "https://a.example/", some rootId, 0, 0, 0⟩]

theorem shelf_tree : Daemon.shelf.rows.tree uninitialized = .ok shelfTree := by
  have sorted : Daemon.shelf.rows.entries.Pairwise fun a b => Rows.readsBefore a b = true := by decide +kernel
  rw [Rows.tree, Rows.nodes, List.mergeSort_of_pairwise sorted]
  rfl

-- Changes nothing, so that nothing has to be written.
def idle : List Operation := [.updateBookmark "x" none none]

theorem idle_commits {store : Store ℚ} (shelved : store.database = Daemon.shelf) (now : Int) :
    store.commit now idle = (.ok (), store) := by
  cases store with
  | mk path database isCurrent files ids =>
      cases shelved
      cases isCurrent <;> rfl

theorem idle_settles {σ : Type} {daemon : Daemon ℚ σ} (shelved : daemon.store.database = Daemon.shelf)
    (read : daemon.store.version = .ok uninitialized) (now : Int) :
    daemon.apply now idle = (.ok (daemon.settle now shelfTree shelfTree (commitMessage idle)).1,
      (daemon.settle now shelfTree shelfTree (commitMessage idle)).2) := by
  have loaded : daemon.store.load = .ok shelfTree := Store.load_of_rows read (by rw [Store.rows, shelved]; exact shelf_tree)
  have checked : daemon.check idle = .ok shelfTree := by
    have read : daemon.tree = .ok shelfTree := map_error_ok.mpr loaded
    rw [Daemon.check, read]
    rfl
  have applied : daemon.store.apply now idle = (.ok shelfTree, daemon.store) := by
    rw [Store.apply, idle_commits shelved now]
    exact congrArg (·, daemon.store) loaded
  simp only [Daemon.apply, checked, applied]

-- A bookmark that is in no commit yet.
def newcomer : Daemon ℚ (Workplace (Content ℚ)) :=
  { Daemon.borrower with
    versions := ⟨{ (Repository.new "profile" : Repository (Content ℚ)) with branch := "main" }, Depot.empty⟩ }

theorem commits_consistent_while_attached_newcomer :
    Apart newcomer.store.path ∧ Valid newcomer.versions ∧ ∃ commit,
      ((Ledger.start newcomer).run [.apply [] 1 idle]).made = [commit] ∧ Consistent "state.db" commit ∧ Dated commit := by
  have apart : Apart newcomer.store.path := ⟨by decide, by decide, by decide, by decide⟩
  have valid : Valid newcomer.versions := by
    refine ⟨fun number impossible => ?_, fun remote branch number impossible => ?_⟩
    · cases impossible
    · cases impossible
  have settled := @idle_settles _ (newcomer.under []) rfl rfl 1
  have last : ((Ledger.start newcomer).run [.apply [] 1 idle]).daemon =
      ((newcomer.under []).settle 1 shelfTree shelfTree (commitMessage idle)).2.afterwards := congrArg (·.2.afterwards) settled
  have made : ((Ledger.start newcomer).run [.apply [] 1 idle]).made.length = 1 := by
    show ([] ++ ((Ledger.start newcomer).run [.apply [] 1 idle]).daemon.versions.depot.history.commits.drop 0).length = 1
    rw [last]
    decide +kernel
  have recorded : ((Ledger.start newcomer).run [.apply [] 1 idle]).recorded := by
    refine ⟨rfl, ?_⟩
    show ∀ number, 0 ≤ number →
      number < ((Ledger.start newcomer).run [.apply [] 1 idle]).daemon.versions.depot.history.commits.length →
      ((Ledger.start newcomer).run [.apply [] 1 idle]).daemon.store.version = .ok (hashOf number)
    rw [last]
    intro number _ below
    have only : number = 0 := Nat.lt_one_iff.mp (Nat.lt_of_lt_of_eq below (by decide +kernel))
    rw [only]
    decide +kernel
  obtain ⟨commit, one⟩ := List.length_eq_one_iff.mp made
  obtain ⟨consistent, dated, _⟩ := commits_consistent_while_attached apart valid [.apply [] 1 idle] rfl
  refine ⟨apart, valid, commit, one, consistent rfl commit ?_, dated rfl recorded commit ?_⟩
  · rw [one]
    exact List.mem_singleton_self commit
  · rw [one]
    exact List.mem_singleton_self commit

-- A bookmark that is in the last commit, which is the remote's as well.
def lodger : Daemon ℚ (Workplace (Content ℚ)) :=
  { Daemon.borrower with
    versions :=
      { Daemon.borrower.versions with
        depot :=
          { history := (History.empty.add [] (Keyed.insert ∅ "state.db" (.database Daemon.shelf)) "one").2
            remotes := Keyed.insert ∅ "library" (Keyed.insert ∅ "main" 0) } } }

-- Others push a commit with a file that is no database.
def spoilt : Ledger ℚ :=
  (Ledger.start lodger).run
    [.commit [0] (Keyed.insert ∅ "state.db" (.text "xy")) "two", .move "library" "main" 1]

def spoiltTaken : Except VersionError (Files ℚ) × Workplace (Content ℚ) × List (Option Mishap) :=
  Workplace.faulty.pull (spoilt.daemon.under []).status.2.versions spoilt.daemon.store.allFiles "main"

-- What was open stays open.
def detached : Daemon ℚ (Workplace (Content ℚ) × List (Option Mishap)) :=
  { spoilt.daemon.under [] with
    store := spoilt.daemon.store.withFiles (spoiltTaken.1.toOption.getD ∅), versions := spoiltTaken.2 }

theorem spoilt_pull : ((spoilt.daemon.under []).pull 5).2 = detached := by
  have loaded : (spoilt.daemon.under []).store.load = .ok shelfTree := Store.load_of_rows (by decide +kernel) shelf_tree
  have taken : spoiltTaken = (.ok (spoiltTaken.1.toOption.getD ∅), spoiltTaken.2) := by
    have went : spoiltTaken.1.isOk = true := by decide +kernel
    generalize spoiltTaken = outcome at went ⊢
    cases outcome with
    | mk answer versions =>
        cases answer with
        | error failure => cases went
        | ok files => rfl
  rw [Daemon.pull_adopts loaded rfl (fun unborn => by cases unborn) taken]
  have closed : (detached.store.reopen 5).1.isOk = false := by decide +kernel
  rcases Daemon.adopt_ways detached 5 shelfTree with ⟨failure, _, failed⟩ | ⟨opened, _, _, reopened, _⟩
  · exact congrArg Prod.snd failed
  · rw [reopened] at closed
    cases closed

def holdsDatabase (commit : Commit (Content ℚ)) : Bool :=
  match commit.files.get? "state.db" with
  | some (.database _) => true
  | _ => false

theorem commits_inconsistent_detached :
    ∃ commit ∈ ((Ledger.start lodger).run
      [.commit [0] (Keyed.insert ∅ "state.db" (.text "xy")) "two", .move "library" "main" 1, .pull [] 5, .apply [] 6 idle]).made,
      ¬ Consistent "state.db" commit := by
  have pulled : (spoilt.pull [] 5).daemon = detached.afterwards := congrArg Daemon.afterwards spoilt_pull
  have settled := @idle_settles _ (detached.afterwards.under []) rfl (by decide +kernel) 6
  have last : ((spoilt.pull [] 5).apply [] 6 idle).daemon =
      ((detached.afterwards.under []).settle 6 shelfTree shelfTree (commitMessage idle)).2.afterwards := by
    rw [← congrArg Prod.snd settled, ← pulled]
    rfl
  have spoils : (((detached.afterwards.under []).settle 6 shelfTree shelfTree
      (commitMessage idle)).2.afterwards.versions.depot.history.commits.drop 2).any (!holdsDatabase ·) = true := by
    decide +kernel
  obtain ⟨commit, member, spoils⟩ := List.any_eq_true.mp spoils
  refine ⟨commit, ?_, ?_⟩
  · show commit ∈ (spoilt.pull [] 5).made ++ ((spoilt.pull [] 5).apply [] 6 idle).daemon.versions.depot.history.commits.drop
      (spoilt.pull [] 5).daemon.versions.depot.history.commits.length
    have count : detached.afterwards.versions.depot.history.commits.length = 2 := by decide +kernel
    rw [last, pulled, count]
    exact List.mem_append_right _ member
  · intro consistent
    obtain ⟨database, tree, generatedAt, there, _⟩ := consistent
    rw [holdsDatabase, there] at spoils
    cases spoils

end Ledger

end Bookmarks
