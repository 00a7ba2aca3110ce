import Bookmarks.Proofs.Daemon.Pulls
import Bookmarks.Proofs.Version.Takeover

/-!
What a pull does to bookmarks that are stored. It puts other rows in their place only if there were none but the
root, or if they are those of a commit that the new last one was made from (`pull_discards_nothing`): where there
is no commit the daemon counts the nodes, commits that the remote does not have are refused, and a file that
is not as the last commit has it is not overwritten.
-/
set_option autoImplicit false

namespace Bookmarks

open Store (Keeps Apart)

variable {ω : Type} [WrittenOrd ω]

-- There is nothing but the root.
def Rows.Bare (rows : Rows ω) : Prop := ∀ id, rows.contains id = true → id = rootId

theorem Rows.bare_of_tree {rows : Rows ω} {version : String} {tree : Tree ω} (rooted : rows.contains rootId = true)
    (shown : rows.tree version = .ok tree) (few : tree.nodes.size ≤ 1) : rows.Bare := by
  obtain ⟨same, loaded, _, _, nodes, _⟩ := Rows.tree_ok (Rows.legible_of_tree shown) version
  rw [shown] at loaded
  cases loaded
  have size : tree.nodes.size = rows.entries.length := by
    rw [nodes, Keyed.size, Keyed.map, List.length_map]
  obtain ⟨root, foundRoot⟩ := Keyed.contains_iff.mp rooted
  have rootMember := Keyed.get?_eq_some_iff.mp foundRoot
  intro id present
  obtain ⟨row, found⟩ := Keyed.contains_iff.mp present
  have member := Keyed.get?_eq_some_iff.mp found
  cases entries : rows.entries with
  | nil =>
      rw [entries] at member
      cases member
  | cons first rest =>
      have alone : rest = [] := by
        rw [size, entries, List.length_cons] at few
        exact List.length_eq_zero_iff.mp (Nat.le_zero.mp (Nat.le_of_succ_le_succ few))
      rw [entries, alone, List.mem_singleton] at member rootMember
      exact congrArg Prod.fst (member.trans rootMember.symm)

namespace Workplace

-- The last commit, or one that it was made from, has the rows at a path.
def Holds (place : Workplace (Content ω)) (path : String) (rows : Rows ω) : Prop :=
  ∃ number writes, number ∈ place.depot.history.reach place.head ∧
    (place.depot.history.filesOf number).get? path = some (.database ⟨rows, writes⟩)

-- Nothing is lost with these rows.
def Spares (place : Workplace (Content ω)) (path : String) (rows : Rows ω) : Prop :=
  rows.Bare ∨ place.Holds path rows

variable {place next : Workplace (Content ω)} {path branch : String} {rows : Rows ω} {files taken : Files ω}

omit [WrittenOrd ω] in
theorem Holds.prepare (holds : place.Holds path rows) : place.prepare.Holds path rows := by
  obtain ⟨number, writes, reached, found⟩ := holds
  cases head : place.head with
  | none =>
      rw [head] at reached
      cases reached
  | some last =>
      rw [prepare_of_head head]
      exact ⟨number, writes, reached, found⟩

theorem Holds.pull (holds : place.prepare.Holds path rows) (done : place.pull files branch = (.ok taken, next)) :
    next.Holds path rows := by
  obtain ⟨number, writes, reached, found⟩ := holds
  obtain ⟨_, last, head, _, depot, descends⟩ := head_of_pull done
  refine ⟨number, writes, ?_, by rw [depot]; exact found⟩
  cases older : place.prepare.head with
  | none =>
      rw [older] at reached
      cases reached
  | some former =>
      rw [older] at reached
      rw [head, depot]
      exact History.mem_reach.mpr ((descends former older).trans (History.mem_reach.mp reached))

-- A database that was there is there still, or in a commit, or there was no commit before.
theorem spares_of_pull [ExactOrd ω] {writes : Nat} (there : files.get? path = some (.database ⟨rows, writes⟩))
    (bare : place.prepare.head = none → rows.Bare) (done : place.pull files branch = (.ok taken, next)) :
    next.Spares path rows ∨ taken.get? path = some (.database ⟨rows, writes⟩) := by
  cases head : place.prepare.head with
  | none => exact Or.inl (Or.inl (bare head))
  | some older =>
      rcases file_of_pull done head path with same | missing | committed
      · exact Or.inr (same.trans there)
      · rw [there] at missing
        cases missing
      · rw [there] at committed
        cases found : (place.depot.history.filesOf older).get? path with
        | none =>
            rw [found] at committed
            cases committed
        | some content =>
            rw [found] at committed
            have same : content = .database ⟨rows, writes⟩ := Content.eq_of_same_database committed
            have holds : place.prepare.Holds path rows := by
              refine ⟨older, writes, ?_, found.trans (congrArg some same)⟩
              rw [head]
              exact History.mem_reach.mpr (.here older)
            exact Or.inl (Or.inr (holds.pull done))

theorem Spares.pull (spares : place.Spares path rows) (done : place.pull files branch = (.ok taken, next)) :
    next.Spares path rows :=
  spares.imp_right fun holds => holds.prepare.pull done

omit [WrittenOrd ω] in
theorem Spares.kept (spares : place.Spares path rows) (depot : next.depot = place.depot)
    (head : next.head = place.head ∨ next.head = place.prepare.head) : next.Spares path rows := by
  rcases spares with bare | holds
  · exact Or.inl bare
  · obtain ⟨number, writes, reached, found⟩ := holds
    have same : next.head = place.head := by
      cases last : place.head with
      | none =>
          rw [last] at reached
          cases reached
      | some _ => rwa [prepare_of_head last, or_self, last] at head
    refine Or.inr ⟨number, writes, ?_, ?_⟩
    · rw [same, depot]
      exact reached
    · rw [depot]
      exact found

end Workplace

namespace Daemon

variable {daemon : Daemon ω (Workplace (Content ω))} {now : Int} {before : Tree ω}

theorem status_ours (ours : daemon.control = Workplace.control) :
    daemon.status = (.ok (daemon.versions.prepare.status daemon.branch),
      { daemon with versions := daemon.versions.prepare }) := by
  simp only [status, ours]
  rfl

-- The bookmarks are in the file at its path, or nothing is lost with them.
def Sheltered (daemon : Daemon ω (Workplace (Content ω))) : Prop :=
  (daemon.store.isCurrent = true ∧ daemon.store.rows.contains rootId = true) ∨
    daemon.versions.Spares daemon.store.path daemon.store.rows

-- What is taken over spares the rows, or leaves the file alone that they are in.
theorem Sheltered.taken [ExactOrd ω] {files : Files ω} {versions : Workplace (Content ω)} (sheltered : daemon.Sheltered)
    (loaded : daemon.store.load = .ok before) (few : daemon.versions.prepare.head = none → before.nodes.size ≤ 1)
    (taken : daemon.versions.prepare.pull daemon.store.allFiles daemon.branch = (.ok files, versions)) :
    versions.Spares daemon.store.path daemon.store.rows ∨ daemon.store.rows.contains rootId = true ∧
      files.get? daemon.store.path = some (.database daemon.store.database) := by
  rcases sheltered with ⟨current, rooted⟩ | spares
  · have bare : daemon.versions.prepare.prepare.head = none → daemon.store.rows.Bare := by
      rw [Workplace.prepare_prepare]
      intro unborn
      obtain ⟨_, _, shown⟩ := bind_eq_ok.mp loaded
      exact Rows.bare_of_tree rooted shown (few unborn)
    have there : daemon.store.allFiles.get? daemon.store.path =
        some (.database ⟨daemon.store.rows, daemon.store.database.writes⟩) := Store.file_at_path current
    exact (Workplace.spares_of_pull there bare taken).imp_right fun same => ⟨rooted, same⟩
  · have prepared : daemon.versions.prepare.Spares daemon.store.path daemon.store.rows := spares.kept rfl (Or.inr rfl)
    exact Or.inl (prepared.pull taken)

theorem reopen_untouched {store : Store ω} {files : Files ω} (rooted : store.rows.contains rootId = true)
    (there : files.get? store.path = some (.database store.database)) (now : Int) :
    ∃ opened, (store.withFiles files).reopen now = (.ok (), opened) ∧ opened.rows = store.rows := by
  have placed : (store.withFiles files).file? (store.withFiles files).path = some (.database store.database) := there
  exact ⟨_, Store.reopen_of_file placed rooted now, rfl⟩

-- When the files are in place, what remains to be done loses nothing that has been spared.
theorem adopt_discards_nothing {files : Files ω} {versions : Workplace (Content ω)}
    (ours : daemon.control = Workplace.control) {number : Nat} (head : versions.head = some number)
    (spared : versions.Spares daemon.store.path daemon.store.rows ∨ daemon.store.rows.contains rootId = true ∧
      files.get? daemon.store.path = some (.database daemon.store.database))
    (now : Int) (before : Tree ω) {answer : Except Failure (Tree ω)} {last : Daemon ω (Workplace (Content ω))}
    (done : adopt { daemon with store := daemon.store.withFiles files, versions } now before = (answer, last)) :
    (answer.isOk = true → daemon.store.rows.Bare ∨ last.store.rows = daemon.store.rows ∨
      last.versions.Holds daemon.store.path daemon.store.rows) ∧
    (∀ failure, answer ≠ .error (.version failure)) ∧ (Apart daemon.store.path → last.Sheltered) := by
  have asked := status_ours (show Daemon.control { daemon with store := daemon.store.withFiles files, versions } = _ from ours)
  rcases adopt_ways { daemon with store := daemon.store.withFiles files, versions } now before with
    ⟨failure, closed, failed⟩ | ⟨opened, _, _, reopened, answered, after, ways⟩
  · rw [failed] at done
    cases done
    refine ⟨?_, ?_, ?_⟩
    · intro impossible
      cases impossible
    · intro other impossible
      cases impossible
    · intro _
      rcases spared with spares | ⟨rooted, there⟩
      · exact Or.inr spares
      · obtain ⟨opened, reopened, _⟩ := reopen_untouched rooted there now
        rw [reopened] at closed
        cases closed
  · rw [answered] at done
    cases done
    rw [asked] at after ways
    rcases ways with ⟨_, impossible, _⟩ | ⟨status, _, store, ways⟩
    · cases impossible
    have kept : last.versions = versions := after.trans (Workplace.prepare_of_head head)
    obtain ⟨path, current, rooted⟩ := Store.reopen_rooted reopened
    have keeps := Store.headed_keeps opened status.localHash
    refine ⟨?_, ?_, ?_⟩
    · intro _
      rw [kept]
      rcases spared with (bare | holds) | ⟨rooted, there⟩
      · exact Or.inl bare
      · exact Or.inr (Or.inr holds)
      · obtain ⟨again, reopenedAgain, rows⟩ := reopen_untouched rooted there now
        have same : opened = again := congrArg Prod.snd (reopened.symm.trans reopenedAgain)
        subst same
        rw [store]
        exact Or.inr (Or.inl (keeps.rows.trans rows))
    · intro failure same
      rcases ways with ⟨_, other⟩ | ⟨_, other, _⟩ <;> cases other.symm.trans same
    · intro apart
      refine Or.inl ⟨?_, ?_⟩
      · rw [store, Store.headed_current (path ▸ apart)]
        exact current
      · rw [store, keeps.rows]
        exact rooted

/-- If a pull succeeds, there was nothing but the root before, or the rows are what they were, or a commit that the
last one was made from has them. A pull that is refused because of changes or commits of its own leaves the
store as it was. Whatever becomes of a pull, the next one finds the bookmarks in the same good state. -/
theorem pull_discards_nothing [ExactOrd ω] (ours : daemon.control = Workplace.control) (sheltered : daemon.Sheltered)
    (now : Int) :
    (∀ tree last, daemon.pull now = (.ok tree, last) → daemon.store.rows.Bare ∨ last.store.rows = daemon.store.rows ∨
      last.versions.Holds daemon.store.path daemon.store.rows) ∧
    (∀ failure last, daemon.pull now = (.error (.version failure), last) → last.store = daemon.store) ∧
    (Apart daemon.store.path → (daemon.pull now).2.Sheltered) := by
  have asked := status_ours ours
  have pulls : daemon.control.pull = Workplace.control.pull := by rw [ours]
  rcases pull_ways daemon now with ⟨failure, versions, failed, ways⟩ |
    ⟨before, position, files, versions, loaded, answered, few, taken, adopted⟩
  · rw [asked, pulls] at ways
    rw [failed]
    refine ⟨?_, ?_, ?_⟩
    · intro tree last done
      cases done
    · intro other last same
      cases same
      rfl
    · intro _
      refine sheltered.imp_right fun spares => ?_
      rcases ways with rfl | rfl | ⟨error, refused⟩
      · exact spares
      · exact spares.kept rfl (Or.inr rfl)
      · have again : daemon.versions.prepare.prepare.head = daemon.versions.prepare.head :=
          congrArg Workplace.head (Workplace.prepare_prepare daemon.versions)
        rcases Workplace.pull_error refused with rfl | rfl | ⟨number, rfl⟩
        · exact spares.kept rfl (Or.inr rfl)
        · exact spares.kept rfl (Or.inr again)
        · exact spares.kept rfl (Or.inr again)
  · rw [asked] at answered
    cases answered
    rw [asked, pulls] at taken
    have spared := sheltered.taken loaded (fun unborn => few (congrArg (Option.map hashOf) unborn)) taken
    rw [adopted]
    obtain ⟨_, number, head, _⟩ := Workplace.head_of_pull taken
    cases done : adopt { daemon with store := daemon.store.withFiles files, versions } now before with
    | mk answer last =>
        obtain ⟨spares, unrefused, sheltered⟩ := adopt_discards_nothing ours head spared now before done
        refine ⟨?_, ?_, sheltered⟩
        · intro tree other same
          cases same
          exact spares rfl
        · intro failure other same
          cases same
          exact absurd rfl (unrefused failure)

-- Whoever takes over a database that can be read has its rows then.
theorem pull_succeeds {files : Files ω} {versions : Workplace (Content ω)} {database : Database ω}
    (ours : daemon.control = Workplace.control) (loaded : daemon.store.load = .ok before)
    (few : daemon.versions.prepare.head = none → before.nodes.size ≤ 1)
    (taken : daemon.versions.prepare.pull daemon.store.allFiles daemon.branch = (.ok files, versions))
    (there : files.get? daemon.store.path = some (.database database)) (rooted : database.rows.contains rootId = true)
    (legible : Rows.Legible database.rows)
    (target : (files.get? (sidecar daemon.store.path)).any Content.isDirectory = false)
    (draft : (files.get? (temporary (sidecar daemon.store.path))).any Content.isDirectory = false) (now : Int) :
    ∃ tree last, daemon.pull now = (.ok tree, last) ∧ last.store.rows = database.rows ∧ last.versions = versions := by
  have placed : (daemon.store.withFiles files).file? (daemon.store.withFiles files).path = some (.database database) := there
  obtain ⟨opened, reopened, path, rows, same⟩ : ∃ opened, (daemon.store.withFiles files).reopen now = (.ok (), opened) ∧
      opened.path = daemon.store.path ∧ opened.rows = database.rows ∧ ∀ other, opened.file? other = files.get? other := by
    refine ⟨_, Store.reopen_of_file placed rooted now, rfl, rfl, ?_⟩
    intro other
    show (Keyed.insert files daemon.store.path (.database database)).get? other = files.get? other
    rw [Keyed.get?_insert]
    split
    · rename_i here
      rw [← here, there]
    · rfl
  obtain ⟨_, number, head, _⟩ := Workplace.head_of_pull taken
  have recorded : (opened.recordVersion (hashOf number)).1 = .ok () := by
    apply Store.replace_file_ok
    · rw [Store.isDirectory, path, same]
      exact draft
    · rw [Store.isDirectory, path, same]
      exact target
  have kept := Store.record_version_keeps opened (hashOf number)
  have shown : (opened.recordVersion (hashOf number)).2.rows = database.rows := (congrArg Database.rows kept.database).trans rows
  obtain ⟨tree, made, _⟩ := Rows.tree_ok legible (hashOf number)
  have reloaded : (opened.recordVersion (hashOf number)).2.load = .ok tree :=
    Store.load_of_rows (Store.version_of_record (hash_tidy number) recorded) (shown ▸ made)
  have localHash : (versions.status daemon.branch).localHash = some (hashOf number) := by
    simp only [Workplace.status, head]
    rfl
  have asked := status_ours ours
  have pulls : daemon.control.pull daemon.status.2.versions daemon.store.allFiles daemon.branch = (.ok files, versions) := by
    rw [asked, ours]
    exact taken
  rw [pull_adopts loaded (congrArg Prod.fst asked) (fun unborn => few (by simpa [Workplace.status] using unborn)) pulls]
  have again : reopen { daemon with store := daemon.store.withFiles files, versions } now =
      (.ok (), { daemon with store := opened, versions }) := by
    simp only [reopen, reopened]
    rfl
  have askedAgain := status_ours (show Daemon.control { daemon with store := opened, versions } = _ from ours)
  rw [Workplace.prepare_of_head head] at askedAgain
  have heading : recordHead { daemon with store := opened, versions } (versions.status daemon.branch) =
      (.ok (), { daemon with store := (opened.recordVersion (hashOf number)).2, versions }) := by
    simp only [recordHead, localHash, recorded]
    rfl
  have loadedLast : Daemon.tree { daemon with store := (opened.recordVersion (hashOf number)).2, versions } = .ok tree :=
    map_error_ok.mpr reloaded
  simp only [adopt, again, askedAgain, heading, reload, loadedLast]
  refine ⟨tree, _, rfl, ?_, ?_⟩
  · split <;> exact shown
  · split <;> rfl

-- A bookmark that is in a commit, and a remote that has a later commit without it.
def shelf : Database ℚ :=
  ⟨(Rows.withRoot ∅ 0).insert "x" ⟨Kind.bookmark.name, "A", some "https://a.example/", some rootId, 0, 0, 0⟩, 2⟩

def cleared : Database ℚ := ⟨Rows.withRoot ∅ 0, 3⟩

def borrower : Daemon ℚ (Workplace (Content ℚ)) where
  store := ⟨"state.db", shelf, true, ∅, {}⟩
  hub := Hub.empty
  branch := "main"
  control := Workplace.control
  versions :=
    { repository :=
        { (Repository.new "profile" : Repository (Content ℚ)) with
          origin := some "library", branch := "main", current := some "main"
          branches := Keyed.insert ∅ "main" 0, index := Keyed.insert ∅ "state.db" (.database shelf) }
      depot :=
        { history := ((History.empty.add [] (Keyed.insert ∅ "state.db" (.database shelf)) "one").2.add [0]
            (Keyed.insert ∅ "state.db" (.database cleared)) "two").2
          remotes := Keyed.insert ∅ "library" (Keyed.insert ∅ "main" 1) } }

def takes (database : Database ℚ) (outcome : Except VersionError (Files ℚ)) : Bool :=
  match outcome with
  | .ok files => some (.database database) == files.get? "state.db" && !files.contains "state.version" &&
      !files.contains "state.version.tmp"
  | .error _ => false

theorem takes_ok {database : Database ℚ} {outcome : Except VersionError (Files ℚ)}
    (taken : takes database outcome = true) :
    ∃ files, outcome = .ok files ∧ files.get? "state.db" = some (.database database) ∧
      files.get? "state.version" = none ∧ files.get? "state.version.tmp" = none := by
  unfold takes at taken
  split at taken
  · rename_i files
    simp only [Bool.and_eq_true, Bool.not_eq_true', ← Bool.not_eq_true, Keyed.not_contains_iff] at taken
    obtain ⟨⟨same, target⟩, draft⟩ := taken
    cases found : files.get? "state.db" with
    | none =>
        rw [found] at same
        cases same
    | some content =>
        rw [found] at same
        exact ⟨files, rfl, found.trans (congrArg some (Content.eq_of_same_database same)), target, draft⟩
  · cases taken

theorem cleared_legible : Rows.Legible cleared.rows := Rows.with_root_legible Rows.empty_legible 0

theorem shelf_legible : Rows.Legible shelf.rows :=
  Rows.insert_legible cleared_legible "x" (Kind.ofName?_name .bookmark)

theorem pull_discards_nothing_borrowed :
    borrower.Sheltered ∧ Apart borrower.store.path ∧ ∃ tree last, borrower.pull 9 = (.ok tree, last) ∧
      last.store.rows = cleared.rows ∧ last.versions.Holds "state.db" shelf.rows := by
  have sheltered : borrower.Sheltered := Or.inl ⟨rfl, by decide +kernel⟩
  obtain ⟨before, shown, _⟩ := Rows.tree_ok shelf_legible uninitialized
  have loaded : borrower.store.load = .ok before := Store.load_of_rows rfl shown
  have born : borrower.versions.prepare.head = none → before.nodes.size ≤ 1 := fun unborn => by cases unborn
  have taking : takes cleared (borrower.versions.prepare.pull borrower.store.allFiles borrower.branch).1 = true := by
    decide +kernel
  obtain ⟨files, taken, there, target, draft⟩ := takes_ok taking
  have place : sidecar borrower.store.path = "state.version" := by decide
  have noTarget : (files.get? (sidecar borrower.store.path)).any Content.isDirectory = false := by rw [place, target]; rfl
  have noDraft : (files.get? (temporary (sidecar borrower.store.path))).any Content.isDirectory = false := by
    rw [place, show temporary "state.version" = "state.version.tmp" by decide, draft]
    rfl
  obtain ⟨tree, last, done, rows, _⟩ :=
    pull_succeeds rfl loaded born (Prod.ext taken rfl) there (by decide +kernel) cleared_legible noTarget noDraft 9
  refine ⟨sheltered, ⟨by decide, by decide, by decide, by decide⟩, tree, last, done, rows, ?_⟩
  rcases (pull_discards_nothing rfl sheltered 9).1 tree last done with bare | same | holds
  · exact absurd (bare "x" (by decide +kernel)) (by decide)
  · have present : last.store.rows.contains "x" = true := by
      rw [same]
      decide +kernel
    rw [rows] at present
    exact absurd present (by decide +kernel)
  · exact holds

end Daemon

end Bookmarks
