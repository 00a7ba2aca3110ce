import Bookmarks.Proofs.Daemon.Interleaving
import Bookmarks.Proofs.Daemon.Reachable

/-!
What calls announce, whoever listens. A batch that changes the tree announces its change once; a pull does so
only if it gets as far as loading the tree that it took over.
-/
set_option autoImplicit false

namespace Bookmarks

-- One change after another is broadcast.
def Hub.broadcastAll (hub : Hub Change) (changes : List Change) : Hub Change :=
  changes.foldl (fun hub change => (hub.broadcast change).2) hub

theorem Hub.broadcast_all_cons (hub : Hub Change) (change : Change) (changes : List Change) :
    hub.broadcastAll (change :: changes) = (hub.broadcast change).2.broadcastAll changes := rfl

-- A lone subscriber that reads nothing is given as many as its queue holds.
theorem Hub.broadcast_all_lone (id : Nat) (unread changes : List Change) (next : Nat)
    (bounded : unread.length ≤ queueCapacity) :
    (Hub.mk next [⟨id, true, unread⟩]).broadcastAll changes =
      ⟨next, [⟨id, true, (unread ++ changes).take queueCapacity⟩]⟩ := by
  induction changes generalizing unread with
  | nil =>
      rw [List.append_nil, List.take_of_length_le bounded]
      rfl
  | cons change changes ih =>
      by_cases room : unread.length < queueCapacity
      · have offered : ((Hub.mk next [⟨id, true, unread⟩]).broadcast change).2 =
            ⟨next, [⟨id, true, unread ++ [change]⟩]⟩ := by
          simp [broadcast, offer, hasRoom, room]
        have longer : (unread ++ [change]).length ≤ queueCapacity := by
          rw [List.length_append]
          exact room
        rw [broadcast_all_cons, offered, ih (unread ++ [change]) longer, List.append_assoc, List.singleton_append]
      · have full : ((Hub.mk next [⟨id, true, unread⟩]).broadcast change).2 = ⟨next, [⟨id, true, unread⟩]⟩ := by
          simp [broadcast, offer, hasRoom, room]
        have exact : unread.length = queueCapacity := by omega
        rw [broadcast_all_cons, full, ih unread bounded, ← exact, List.take_left, List.take_left]

theorem Rows.Shows.nodes_eq {ω : Type} [WrittenOrd ω] {rows : Rows ω} {tree other : Tree ω}
    (shown : rows.Shows tree) (also : rows.Shows other) : tree.nodes = other.nodes := by
  obtain ⟨version, loaded⟩ := shown
  obtain ⟨_, loadedOther⟩ := also
  have renamed := Rows.tree_version loadedOther version
  rw [loaded] at renamed
  cases renamed
  rfl

namespace Daemon

variable {ω σ : Type} [WrittenOrd ω] {α : Type}

-- The step neither looks at the subscribers nor changes them.
def Aloof (step : Daemon ω σ → α × Daemon ω σ) : Prop :=
  ∀ daemon hub, step { daemon with hub } = ((step daemon).1, { (step daemon).2 with hub })

-- What a call does to the subscribers, whichever there are, is to broadcast these changes.
def Announces (call : Daemon ω σ → Daemon ω σ) (daemon : Daemon ω σ) (changes : List Change) : Prop :=
  ∀ hub, (call { daemon with hub }).hub = hub.broadcastAll changes

section

variable {daemon : Daemon ω σ}

omit [WrittenOrd ω] in
theorem Aloof.announces {step : Daemon ω σ → α × Daemon ω σ} (aloof : Aloof step) (daemon : Daemon ω σ) :
    Announces (fun daemon => (step daemon).2) daemon [] := by
  intro hub
  show (step { daemon with hub }).2.hub = hub
  rw [aloof]

omit [WrittenOrd ω] in
theorem Announces.unique {call : Daemon ω σ → Daemon ω σ} {changes others : List Change}
    (announces : Announces call daemon changes) (also : Announces call daemon others)
    (few : changes.length < queueCapacity) : others = changes := by
  -- whoever reads nothing during the call has the changes afterwards
  have told := announces ⟨1, [⟨0, true, []⟩]⟩
  rw [also, Hub.broadcast_all_lone 0 [] others 1 (Nat.zero_le _),
    Hub.broadcast_all_lone 0 [] changes 1 (Nat.zero_le _)] at told
  have same : others.take queueCapacity = changes.take queueCapacity := by
    simpa using told
  rw [List.take_of_length_le (Nat.le_of_lt few)] at same
  have short : others.length < queueCapacity := by
    have lengths := congrArg List.length same
    rw [List.length_take] at lengths
    omega
  rwa [List.take_of_length_le (Nat.le_of_lt short)] at same

omit [WrittenOrd ω] in
theorem export_aloof (now : Int) (tree : Tree ω) (message : String) :
    Aloof fun daemon : Daemon ω σ => daemon.exportTree now tree message := by
  intro daemon hub
  simp only [exportTree]
  cases daemon.store.writeSnapshot now tree with
  | mk outcome store => cases outcome <;> rfl

omit [WrittenOrd ω] in
theorem record_commit_aloof (tree : Tree ω) (status : CommitStatus) :
    Aloof fun daemon : Daemon ω σ => daemon.recordCommit tree status := by
  intro daemon hub
  simp only [recordCommit]
  cases status.hash with
  | none => rfl
  | some hash =>
      by_cases known : hash = tree.version
      · simp only [if_pos known]
      · simp only [if_neg known]
        cases daemon.store.recordVersion hash with
        | mk outcome store => cases outcome <;> rfl

omit [WrittenOrd ω] in
theorem status_aloof : Aloof fun daemon : Daemon ω σ => daemon.status := fun _ _ => rfl

theorem reopen_aloof (now : Int) : Aloof fun daemon : Daemon ω σ => daemon.reopen now := fun _ _ => rfl

omit [WrittenOrd ω] in
theorem fetch_aloof : Aloof fun daemon : Daemon ω σ => daemon.fetch := by
  intro daemon hub
  simp only [fetch]
  cases daemon.control.pull daemon.versions daemon.store.allFiles daemon.branch with
  | mk outcome versions => cases outcome <;> rfl

omit [WrittenOrd ω] in
theorem record_head_aloof (status : BranchStatus) : Aloof fun daemon : Daemon ω σ => daemon.recordHead status := by
  intro daemon hub
  simp only [recordHead]
  cases status.localHash <;> rfl

-- The change of a call, exactly: the nodes that differ, in ascending order.
def Tells (change : Change) (before after : Tree ω) : Prop :=
  change.changedIds.Pairwise (· < ·) ∧ ∀ id, id ∈ change.changedIds ↔ before.Differs after id

theorem settle_announces (daemon : Daemon ω σ) (now : Int) (before after : Tree ω) (message : String) :
    Announces (fun daemon => (daemon.settle now before after message).2) daemon
      [⟨(daemon.settle now before after message).1.tree.version,
        (daemon.settle now before after message).1.tree.changedSince before, now⟩] := by
  intro hub
  have exported := export_aloof now after message daemon hub
  have recorded := record_commit_aloof after (daemon.exportTree now after message).1
    (daemon.exportTree now after message).2 hub
  simp only [settle, announce, exported, recorded, Hub.broadcastAll, List.foldl_cons, List.foldl_nil]

theorem settle_shows (daemon : Daemon ω σ) {after : Tree ω} (shown : daemon.store.rows.Shows after) (now : Int)
    (before : Tree ω) (message : String) :
    (daemon.settle now before after message).2.store.rows.Shows (daemon.settle now before after message).1.tree := by
  have exported := (export_keeps daemon now after message).shows shown
  have recorded := record_commit_shows exported (daemon.exportTree now after message).2
    (daemon.exportTree now after message).1
  exact (record_commit_keeps _ after _).shows recorded

theorem tells_of_shows {rows : Rows ω} {shown after : Tree ω} (one : rows.Shows shown) (other : rows.Shows after)
    (before : Tree ω) (version : String) (now : Int) :
    Tells ⟨version, shown.changedSince before, now⟩ before after := by
  have same := one.nodes_eq other
  refine ⟨Tree.changed_since_ascending before shown, ?_⟩
  intro id
  rw [Tree.mem_changed_since, Tree.Differs, Tree.Differs, same]

theorem stored_announces {before after : Tree ω} {store : Store ω} {now : Int} {batch : List Operation}
    (checked : daemon.check batch = .ok before) (committed : daemon.store.commit now batch = (.ok (), store))
    (reloaded : store.load = .ok after) :
    Announces (fun daemon => (daemon.apply now batch).2) daemon
      [⟨(settle { daemon with store } now before after (commitMessage batch)).1.tree.version,
        (settle { daemon with store } now before after (commitMessage batch)).1.tree.changedSince before, now⟩] := by
  intro hub
  have also : ({ daemon with hub } : Daemon ω σ).check batch = .ok before := checked
  simp only [apply, also, Store.apply, committed, reloaded]
  exact settle_announces { daemon with store } now before after (commitMessage batch) hub

-- A batch is stored and its change announced, or neither.
theorem apply_announces {before : Tree ω} (loaded : daemon.store.load = .ok before) (now : Int)
    (batch : List Operation) :
    ((daemon.apply now batch).2 = daemon ∧ Announces (fun daemon => (daemon.apply now batch).2) daemon []) ∨
    ∃ after change, (daemon.apply now batch).2.store.load = .ok after ∧
      Announces (fun daemon => (daemon.apply now batch).2) daemon [change] ∧ Tells change before after := by
  rcases apply_cases daemon now batch with ⟨failure, refused, same⟩ | ⟨_, failure, checked, failed, same⟩ |
    ⟨earlier, stored, store, checked, committed, reloaded, same⟩
  · refine Or.inl ⟨congrArg Prod.snd same, ?_⟩
    intro hub
    have also : ({ daemon with hub } : Daemon ω σ).check batch = .error failure := refused
    simp only [apply, also]
    rfl
  · refine Or.inl ⟨congrArg Prod.snd same, ?_⟩
    intro hub
    have also : ({ daemon with hub } : Daemon ω σ).check batch = .ok _ := checked
    simp only [apply, also, Store.apply, failed]
    rfl
  · obtain ⟨found, _⟩ := check_ok checked
    rw [loaded] at found
    cases found
    obtain ⟨after, loadedAfter⟩ := load_of_apply loaded now batch
    have shown := settle_shows { daemon with store } (Store.shows_of_load reloaded) now before (commitMessage batch)
    have settledAfter := loadedAfter
    rw [same] at settledAfter
    have tells := tells_of_shows shown (Store.shows_of_load settledAfter) before
      (settle { daemon with store } now before stored (commitMessage batch)).1.tree.version now
    exact Or.inr ⟨after, _, loadedAfter, stored_announces checked committed reloaded, tells⟩

-- A step, and another one if it did not fail.
def followed {β : Type} (step : Daemon ω σ → Except Failure α × Daemon ω σ)
    (next : α → Daemon ω σ → Except Failure β × Daemon ω σ) (daemon : Daemon ω σ) :
    Except Failure β × Daemon ω σ :=
  match step daemon with
  | (.error failure, daemon) => (.error failure, daemon)
  | (.ok value, daemon) => next value daemon

-- A call that answers with a tree has announced how it differs, one that fails has announced nothing.
def Discloses (now : Int) (before : Tree ω) (call : Daemon ω σ → Except Failure (Tree ω) × Daemon ω σ)
    (daemon : Daemon ω σ) : Prop :=
  (∃ failure, (call daemon).1 = .error failure ∧ Announces (fun daemon => (call daemon).2) daemon []) ∨
  ∃ after, (call daemon).1 = .ok after ∧ (call daemon).2.store.load = .ok after ∧
    Announces (fun daemon => (call daemon).2) daemon
      (if (after.changedSince before).isEmpty then [] else [⟨after.version, after.changedSince before, now⟩])

theorem Discloses.followed {before : Tree ω} {now : Int} {step : Daemon ω σ → Except Failure α × Daemon ω σ}
    {next : α → Daemon ω σ → Except Failure (Tree ω) × Daemon ω σ} (aloof : Aloof step)
    (rest : ∀ value daemon, Discloses now before (next value) daemon) (daemon : Daemon ω σ) :
    Discloses now before (followed step next) daemon := by
  have others := aloof daemon
  cases done : step daemon with
  | mk outcome later =>
      rw [done] at others
      cases outcome with
      | error failure =>
          refine Or.inl ⟨failure, by rw [Daemon.followed, done], ?_⟩
          intro hub
          simp only [Daemon.followed, others]
          rfl
      | ok value =>
          have here : Daemon.followed step next daemon = next value later := by rw [Daemon.followed, done]
          have elsewhere : ∀ hub, Daemon.followed step next { daemon with hub } = next value { later with hub } := by
            intro hub
            rw [Daemon.followed, others]
          unfold Discloses Announces at rest ⊢
          simp only [here, elsewhere]
          exact rest value later

theorem reload_discloses (now : Int) (before : Tree ω) (daemon : Daemon ω σ) :
    Discloses now before (fun daemon => daemon.reload now before) daemon := by
  cases loaded : daemon.store.load with
  | error failure =>
      have failed : ∀ hub, ({ daemon with hub } : Daemon ω σ).reload now before =
          (.error (.store failure), { daemon with hub }) := by
        intro hub
        simp only [reload, tree, loaded]
        rfl
      exact Or.inl ⟨.store failure, congrArg Prod.fst (failed daemon.hub), fun hub => congrArg (·.2.hub) (failed hub)⟩
  | ok after =>
      have done : ∀ hub, ({ daemon with hub } : Daemon ω σ).reload now before =
          (.ok after, { daemon with hub := hub.broadcastAll (if (after.changedSince before).isEmpty then []
            else [⟨after.version, after.changedSince before, now⟩]) }) := by
        intro hub
        simp only [reload, tree, loaded, Except.mapError]
        by_cases same : (after.changedSince before).isEmpty = true
        · simp only [if_pos same]
          rfl
        · simp only [if_neg same]
          rfl
      refine Or.inr ⟨after, congrArg Prod.fst (done daemon.hub), ?_, fun hub => congrArg (·.2.hub) (done hub)⟩
      have kept := congrArg (·.2.store) (done daemon.hub)
      exact (congrArg Store.load kept).trans loaded

theorem adopt_eq (now : Int) (before : Tree ω) (daemon : Daemon ω σ) :
    daemon.adopt now before = followed (fun daemon => daemon.reopen now) (fun _ =>
      followed (fun daemon => daemon.status) fun status =>
        followed (fun daemon => daemon.recordHead status) fun _ daemon => daemon.reload now before) daemon := by
  simp only [adopt, followed]
  cases daemon.reopen now with
  | mk opened daemon =>
      cases opened with
      | error failure => rfl
      | ok _ =>
          simp only
          cases daemon.status with
          | mk answer daemon =>
              cases answer with
              | error failure => rfl
              | ok status =>
                  simp only
                  cases daemon.recordHead status with
                  | mk recorded daemon => cases recorded <;> rfl

theorem adopt_discloses (now : Int) (before : Tree ω) (daemon : Daemon ω σ) :
    Discloses now before (fun daemon => daemon.adopt now before) daemon := by
  simp only [adopt_eq]
  exact .followed (reopen_aloof now) (fun _ => .followed status_aloof fun status =>
    .followed (record_head_aloof status) fun _ => reload_discloses now before) daemon

-- What a pull does after it has loaded the tree.
def pullFrom (now : Int) (before : Tree ω) : Daemon ω σ → Except Failure (Tree ω) × Daemon ω σ :=
  followed (fun daemon => daemon.status) fun status daemon =>
    if status.localHash.isNone && decide (1 < before.nodes.size) then
      (.error (.version .uncommittedChanges), daemon)
    else followed (fun daemon => daemon.fetch) (fun _ daemon => daemon.adopt now before) daemon

theorem pull_eq (daemon : Daemon ω σ) {before : Tree ω} (loaded : daemon.store.load = .ok before) (now : Int) :
    daemon.pull now = pullFrom now before daemon := by
  simp only [pull, tree, loaded, Except.mapError, pullFrom, followed]
  cases daemon.status with
  | mk answer daemon =>
      cases answer with
      | error failure => rfl
      | ok status =>
          simp only
          split
          · rfl
          · cases daemon.fetch with
            | mk fetched daemon => cases fetched <;> rfl

theorem pull_discloses {before : Tree ω} (loaded : daemon.store.load = .ok before) (now : Int) :
    Discloses now before (fun daemon => daemon.pull now) daemon := by
  have whole : Discloses now before (pullFrom now before) daemon := by
    refine .followed status_aloof ?_ daemon
    intro status daemon
    by_cases refused : (status.localHash.isNone && decide (1 < before.nodes.size)) = true
    · simp only [Discloses, Announces, if_pos refused]
      exact Or.inl ⟨_, rfl, fun _ => rfl⟩
    · simp only [if_neg refused]
      exact .followed fetch_aloof (fun _ => adopt_discloses now before) daemon
  have same : ∀ hub, ({ daemon with hub } : Daemon ω σ).pull now = pullFrom now before { daemon with hub } :=
    fun hub => pull_eq { daemon with hub } loaded now
  unfold Discloses Announces at whole ⊢
  simp only [same]
  exact whole

-- A node whose ord is a number does not differ from itself.
theorem not_differs_self {before : Tree ω} {id : String}
    (numbers : ∀ id node, before.nodes.get? id = some node → SiblingOrd.same node.ord node.ord = true) :
    ¬ before.Differs before id := by
  intro differs
  unfold Tree.Differs at differs
  cases found : before.nodes.get? id with
  | none => simp only [found] at differs
  | some node =>
      simp only [found] at differs
      simp [Node.same, numbers id node found] at differs

/-- When a batch changes nodes, its change is announced once and names exactly the nodes that differ. When a
pull changes nodes, that holds of it if it answers with a tree; a pull that fails has announced nothing. -/
theorem changed_nodes_announced {before : Tree ω} (loaded : daemon.store.load = .ok before)
    (numbers : ∀ id node, before.nodes.get? id = some node → SiblingOrd.same node.ord node.ord = true) (now : Int) :
    (∀ batch, ∃ after, (daemon.apply now batch).2.store.load = .ok after ∧
      ((∃ id, before.Differs after id) →
        ∃ change, Announces (fun daemon => (daemon.apply now batch).2) daemon [change] ∧
          Tells change before after)) ∧
    ∀ after, (daemon.pull now).2.store.load = .ok after → (∃ id, before.Differs after id) →
      if (daemon.pull now).1.isOk then
        ∃ change, Announces (fun daemon => (daemon.pull now).2) daemon [change] ∧ Tells change before after
      else Announces (fun daemon => (daemon.pull now).2) daemon [] := by
  constructor
  · intro batch
    rcases apply_announces loaded now batch with ⟨same, _⟩ | ⟨after, change, loadedAfter, announced, tells⟩
    · refine ⟨before, same.symm ▸ loaded, ?_⟩
      rintro ⟨id, differs⟩
      exact absurd differs (not_differs_self numbers)
    · exact ⟨after, loadedAfter, fun _ => ⟨change, announced, tells⟩⟩
  · rintro after loadedAfter ⟨id, differs⟩
    rcases pull_discloses loaded now with ⟨failure, failed, announced⟩ | ⟨tree, answered, taken, announced⟩
    · rw [failed]
      exact announced
    · have same : after = tree := Except.ok.inj (loadedAfter.symm.trans taken)
      subst same
      rw [answered]
      have changed : ¬ (after.changedSince before).isEmpty = true := by
        intro nothing
        have listed := Tree.mem_changed_since.mpr differs
        rw [List.isEmpty_iff.mp nothing] at listed
        cases listed
      rw [if_neg changed] at announced
      exact ⟨_, announced, Tree.changed_since_ascending before after, fun _ => Tree.mem_changed_since⟩

end

-- A branch whose database is that of another new profile. Whether it can be asked for its position after it
-- was fetched is left open.
def remote (answers : Bool) : VersionControl (Content ℚ) Bool where
  commit fetched _ _ _ := (.ok .deferred, fetched)
  push fetched := (.ok (), fetched)
  pull _ _ _ := (.ok (Keyed.insert ∅ "state.db" (.database (Store.initialized ⟨∅, 0⟩ 7))), true)
  status fetched _ := (if fetched && !answers then .error (.io "broken") else .ok {}, fetched)

def visitor (answers : Bool) : Daemon ℚ Bool := start newcomer.store "main" (remote answers) false

def changedBetween (first last : Store ℚ) : List String :=
  match first.load, last.load with
  | .ok before, .ok after => after.changedSince before
  | _, _ => []

theorem differs_of_between {first last : Store ℚ} {id : String} (changed : id ∈ changedBetween first last) :
    ∃ before after, first.load = .ok before ∧ last.load = .ok after ∧ before.Differs after id := by
  unfold changedBetween at changed
  cases loaded : first.load with
  | error failure => simp [loaded] at changed
  | ok before =>
      cases loadedAfter : last.load with
      | error failure => simp [loaded, loadedAfter] at changed
      | ok after =>
          simp only [loaded, loadedAfter] at changed
          exact ⟨before, after, rfl, rfl, Tree.mem_changed_since.mp changed⟩

-- The title of a bookmark, and a pull that succeeds.
theorem changed_nodes_announced_here :
    (∃ before after change, loneBookmark.store.load = .ok before ∧ before.Differs after "x" ∧
      Announces (fun daemon => (daemon.apply 2 (retitles 0)).2) loneBookmark [change] ∧ Tells change before after) ∧
    ∃ before after change, (visitor true).store.load = .ok before ∧ before.Differs after "root" ∧
      Announces (fun daemon => (daemon.pull 2).2) (visitor true) [change] ∧ Tells change before after := by
  constructor
  · have changed : "x" ∈ changedBetween loneBookmark.store (loneBookmark.apply 2 (retitles 0)).2.store := by
      decide +kernel
    obtain ⟨before, after, loaded, loadedAfter, differs⟩ := differs_of_between changed
    obtain ⟨other, loadedOther, announced⟩ :=
      (changed_nodes_announced loaded (by simp [SiblingOrd.same]) 2).1 (retitles 0)
    have same : other = after := Except.ok.inj (loadedOther.symm.trans loadedAfter)
    subst same
    obtain ⟨change, told, tells⟩ := announced ⟨"x", differs⟩
    exact ⟨before, other, change, loaded, differs, told, tells⟩
  · have changed : "root" ∈ changedBetween (visitor true).store ((visitor true).pull 2).2.store := by decide +kernel
    obtain ⟨before, after, loaded, loadedAfter, differs⟩ := differs_of_between changed
    have announced :=
      (changed_nodes_announced loaded (by simp [SiblingOrd.same]) 2).2 after loadedAfter ⟨"root", differs⟩
    have answered : ((visitor true).pull 2).1.isOk = true := by decide +kernel
    rw [if_pos answered] at announced
    obtain ⟨change, told, tells⟩ := announced
    exact ⟨before, after, change, loaded, differs, told, tells⟩

theorem visitor_reachable (answers : Bool) : Reachable (visitor answers) :=
  .opened ∅ "state.db" {} 0 newcomer.store "main" (remote answers) false
    ⟨by decide, by decide, by decide, by decide⟩ (Or.inl rfl) rfl

theorem visitor_pull_reachable (answers : Bool) : Reachable ((visitor answers).pull 2).2 := by
  refine .pull (visitor answers) 2 (visitor_reachable answers) ?_
  intro files versions pulled
  cases pulled
  refine Or.inr ⟨7, _, (Store.initialized (⟨∅, 0⟩ : Database ℚ) 7).writes, initialized_empty 7, ?_⟩
  rw [Keyed.get?_insert]
  exact if_pos rfl

-- The branch cannot be asked for its position: the tree has become another one, and nobody was told.
theorem failed_pull_not_announced :
    Reachable (visitor false) ∧ Reachable ((visitor false).pull 2).2 ∧
    (∃ before after, (visitor false).store.load = .ok before ∧ ((visitor false).pull 2).2.store.load = .ok after ∧
      before.Differs after "root") ∧
    ((visitor false).pull 2).1.isOk = false ∧
    ¬ ∃ change, Announces (fun daemon => (daemon.pull 2).2) (visitor false) [change] := by
  have changed : "root" ∈ changedBetween (visitor false).store ((visitor false).pull 2).2.store := by decide +kernel
  have failed : ((visitor false).pull 2).1.isOk = false := by decide +kernel
  refine ⟨visitor_reachable false, visitor_pull_reachable false, differs_of_between changed, failed, ?silent⟩
  case silent =>
    rintro ⟨change, announced⟩
    obtain ⟨before, _, loaded, _, _⟩ := differs_of_between changed
    rcases pull_discloses loaded 2 with ⟨_, _, silent⟩ | ⟨_, answered, _, _⟩
    · cases silent.unique announced (by decide)
    · rw [answered] at failed
      cases failed

end Daemon

end Bookmarks
