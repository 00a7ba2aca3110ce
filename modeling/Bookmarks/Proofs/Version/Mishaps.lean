import Bookmarks.Proofs.Version.Takeover

/-!
Commits, and calls that go wrong. A commit that is made holds the files that were asked for, as they were, and has
the last commit before it as its only parent (`commit_ways`). Any call can fail before anything is done, when
part of it is done, or when all is done and only the answer is lost; the last commit is then the one from
before, or the one that was just made.
-/
set_option autoImplicit false

namespace Bookmarks

inductive Mishap where
  -- Nothing is done.
  | refused (error : VersionError)
  -- The files are staged or the branch is fetched, and that is all.
  | midway (error : VersionError)
  -- All is done in the repository, but nobody hears of it.
  | unanswered (error : VersionError)

namespace Workplace

variable {κ : Type}

def fetched (place : Workplace κ) (branch : String) : Workplace κ :=
  match place.repository.origin with
  | none => place
  | some remote => (place.prepare.fetch remote branch).2

variable [BEq κ]

def staged (place : Workplace κ) (files : Keyed κ) (paths : List String) : Workplace κ :=
  { place.prepare with repository := (place.prepare.repository.stage .plain files paths).2 }

def commitUnder (place : Workplace κ) (mishap : Option Mishap) (files : Keyed κ) (paths : List String)
    (message : String) : Except VersionError CommitStatus × Workplace κ :=
  match mishap with
  | none => place.commit files paths message
  | some (.refused error) => (.error error, place)
  | some (.midway error) => (.error error, place.staged files paths)
  | some (.unanswered error) => (.error error, (place.commit files paths message).2)

def pushUnder (place : Workplace κ) (mishap : Option Mishap) : Except VersionError Unit × Workplace κ :=
  match mishap with
  | none => place.push
  | some (.refused error) => (.error error, place)
  | some (.midway error) => (.error error, place.prepare)
  | some (.unanswered error) => (.error error, place.push.2)

def pullUnder (place : Workplace κ) (mishap : Option Mishap) (files : Keyed κ) (branch : String) :
    Except VersionError (Keyed κ) × Workplace κ :=
  match mishap with
  | none => place.pull files branch
  | some (.refused error) => (.error error, place)
  | some (.midway error) => (.error error, place.fetched branch)
  | some (.unanswered error) => (.error error, place.fetched branch)

def statusUnder (place : Workplace κ) (mishap : Option Mishap) (branch : String) :
    Except VersionError BranchStatus × Workplace κ :=
  match mishap with
  | none => (.ok (place.prepare.status branch), place.prepare)
  | some (.refused error) => (.error error, place)
  | some (.midway error) => (.error error, place.prepare)
  | some (.unanswered error) => (.error error, place.prepare)

-- The control of a place with what goes wrong at each of the next calls.
def faulty : VersionControl κ (Workplace κ × List (Option Mishap)) where
  commit state files paths message :=
    let (answer, place) := state.1.commitUnder state.2.head?.join files paths message
    (answer, place, state.2.tail)
  push state :=
    let (answer, place) := state.1.pushUnder state.2.head?.join
    (answer, place, state.2.tail)
  pull state files branch :=
    let (answer, place) := state.1.pullUnder state.2.head?.join files branch
    (answer, place, state.2.tail)
  status state branch :=
    let (answer, place) := state.1.statusUnder state.2.head?.join branch
    (answer, place, state.2.tail)

variable {place next : Workplace κ} {files taken : Keyed κ} {branch : String} {paths : List String} {message : String}

-- The last commit and the commits there are stay as they are.
structure Rests (place next : Workplace κ) : Prop where
  depot : next.depot = place.depot
  tip : next.tip = place.tip

omit [BEq κ] in
theorem Rests.refl (place : Workplace κ) : Rests place place := ⟨rfl, rfl⟩

omit [BEq κ] in
theorem Rests.trans {last : Workplace κ} (first : Rests place next) (second : Rests next last) : Rests place last :=
  ⟨second.depot.trans first.depot, second.tip.trans first.tip⟩

-- Nothing is done but to look around.
structure Still (place next : Workplace κ) : Prop where
  rests : Rests place next
  seat : next.repository.seat = place.repository.seat
  index : next.repository.index = place.repository.index

omit [BEq κ] in
theorem Still.refl (place : Workplace κ) : Still place place := ⟨.refl place, rfl, rfl⟩

omit [BEq κ] in
theorem Still.trans {last : Workplace κ} (first : Still place next) (second : Still next last) : Still place last :=
  ⟨first.rests.trans second.rests, second.seat.trans first.seat, second.index.trans first.index⟩

omit [BEq κ] in
theorem still_prepare (place : Workplace κ) : Still place place.prepare :=
  ⟨⟨rfl, congrArg head (prepare_prepare place)⟩, rfl, rfl⟩

theorem rests_staged (place : Workplace κ) (files : Keyed κ) (paths : List String) :
    Rests place (place.staged files paths) := by
  obtain ⟨index, same, _⟩ := Handling.index_of_stage .plain place.prepare.repository files paths
  rw [staged, same]
  exact (still_prepare place).rests.trans ⟨rfl, rfl⟩

omit [BEq κ] in
theorem still_fetched (place : Workplace κ) (branch : String) : Still place (place.fetched branch) := by
  have fetch (remote : String) : Still place (place.prepare.fetch remote branch).2 := by
    unfold Workplace.fetch
    split
    · exact still_prepare place
    · exact (still_prepare place).trans ⟨⟨rfl, rfl⟩, rfl, rfl⟩
  unfold fetched
  split
  · exact .refl place
  · exact fetch _

def withIndex (place : Workplace κ) (index : Keyed κ) : Workplace κ :=
  { place with repository := { place.repository with index } }

-- A new commit of what is staged, made from the last one.
def committed (place : Workplace κ) (message : String) : Workplace κ :=
  let (number, history) := place.depot.history.add place.head.toList place.repository.index message
  ⟨place.repository.setHead number, { place.depot with history }⟩

-- What a commit call does: it fails for what cannot be staged, or it stages everything and there is nothing to
-- commit, no message to commit it with, or a new commit.
theorem commit_cases {δ : Type} (handling : Handling κ δ) (place : Workplace κ) (directory : δ) (paths : List String)
    (message : String) :
    ∃ index, (∀ path, index.get? path = handling.staging directory place.repository.index paths path) ∧
      ((handling.add directory place.repository.index paths).1 = false ∧
          (∃ error, place.commitWith handling directory paths message = (.error error, place.prepare.withIndex index)) ∨
        (handling.add directory place.repository.index paths).1 = true ∧
          (Repository.sameFiles index place.prepare.headFiles = true ∧ place.commitWith handling directory paths message =
              (.ok ⟨false, false, place.tip.map hashOf⟩, place.prepare.withIndex index) ∨
            Repository.sameFiles index place.prepare.headFiles = false ∧
              (Message.isEmpty message = true ∧
                  (∃ error, place.commitWith handling directory paths message = (.error error, place.prepare.withIndex index)) ∨
                Message.isEmpty message = false ∧ place.commitWith handling directory paths message =
                  (.ok ⟨true, false, some (hashOf place.depot.history.commits.length)⟩,
                    (place.prepare.withIndex index).committed message)))) := by
  obtain ⟨index, same, found⟩ := Handling.index_of_stage handling place.prepare.repository directory paths
  refine ⟨index, found, ?_⟩
  unfold commitWith
  simp only [same]
  cases complete : (handling.add directory place.prepare.repository.index paths).1 with
  | false => exact Or.inl ⟨complete, _, rfl⟩
  | true =>
      refine Or.inr ⟨complete, ?_⟩
      simp only [if_true]
      unfold commitStaged
      split
      · rename_i same
        exact Or.inl ⟨same, rfl⟩
      · rename_i different
        refine Or.inr ⟨Bool.eq_false_iff.mpr different, ?_⟩
        split
        · rename_i empty
          exact Or.inl ⟨empty, _, rfl⟩
        · rename_i filled
          exact Or.inr ⟨Bool.eq_false_iff.mpr filled, rfl⟩

-- A commit was made on top of the last one, of these files at these paths.
structure Commits (place next : Workplace κ) (files : Keyed κ) (paths : List String) : Prop where
  remotes : next.depot.remotes = place.depot.remotes
  tip : next.tip = some place.depot.history.commits.length
  made : ∃ index message, next.depot.history = (place.depot.history.add place.tip.toList index message).2 ∧
    ∀ path ∈ paths, index.get? path = files.get? path

theorem commit_ways {answer : Except VersionError CommitStatus}
    (done : place.commit files paths message = (answer, next)) :
    (Rests place next ∧ ∀ status, answer = .ok status → status = ⟨false, false, place.tip.map hashOf⟩) ∨
      (Commits place next files paths ∧ answer = .ok ⟨true, false, some (hashOf place.depot.history.commits.length)⟩) := by
  have prepared := (still_prepare place).rests
  obtain ⟨index, found, ⟨_, error, ended⟩ | ⟨complete, ⟨_, ended⟩ | ⟨_, ⟨_, error, ended⟩ | ⟨_, ended⟩⟩⟩⟩ :=
    commit_cases .plain place files paths message <;> cases ended.symm.trans done
  · exact Or.inl ⟨prepared.trans ⟨rfl, rfl⟩, nofun⟩
  · refine Or.inl ⟨prepared.trans ⟨rfl, rfl⟩, ?_⟩
    intro status same
    exact (Except.ok.inj same).symm
  · exact Or.inl ⟨prepared.trans ⟨rfl, rfl⟩, nofun⟩
  · refine Or.inr ⟨⟨rfl, tip_of_head (Repository.head_of_set rfl), index, message, rfl, ?_⟩, rfl⟩
    intro path listed
    rw [found, Handling.staging_plain complete listed]

theorem commit_under_ways {mishap : Option Mishap} {answer : Except VersionError CommitStatus}
    (done : place.commitUnder mishap files paths message = (answer, next)) :
    (Rests place next ∧ ∀ status, answer = .ok status → status = ⟨false, false, place.tip.map hashOf⟩) ∨
      (Commits place next files paths ∧
        ∀ status, answer = .ok status → status = ⟨true, false, some (hashOf place.depot.history.commits.length)⟩) := by
  have silent {status : CommitStatus} {error : VersionError} {P : Prop} (impossible : Except.error error = .ok status) : P := by
    cases impossible
  unfold commitUnder at done
  split at done
  · rcases commit_ways done with rests | ⟨commits, answered⟩
    · exact Or.inl rests
    · refine Or.inr ⟨commits, ?_⟩
      intro status same
      rw [answered] at same
      exact (Except.ok.inj same).symm
  · cases done
    exact Or.inl ⟨.refl place, fun _ => silent⟩
  · cases done
    exact Or.inl ⟨rests_staged place files paths, fun _ => silent⟩
  · cases done
    rcases commit_ways (Prod.eta (place.commit files paths message)).symm with ⟨rests, _⟩ | ⟨commits, _⟩
    · exact Or.inl ⟨rests, fun _ => silent⟩
    · exact Or.inr ⟨commits, fun _ => silent⟩

-- A branch of the remote has been moved to the last commit.
def pushed (place : Workplace κ) (remote : String) (branches : Keyed Nat) (number : Nat) : Workplace κ :=
  let branch := place.repository.branch
  { repository := { place.prepare.repository with tracking := place.repository.tracking.insert branch number }
    depot := { place.depot with remotes := place.depot.remotes.insert remote (branches.insert branch number) } }

omit [BEq κ] in
-- What a push does is to move a branch of the remote to the last commit, if that was made from where the branch stood.
theorem push_cases (place : Workplace κ) :
    (∃ error, place.push = (.error error, place) ∨ place.push = (.error error, place.prepare)) ∨
    ∃ remote branches number, place.push = (.ok (), place.pushed remote branches number) ∧ place.tip = some number ∧
      place.repository.origin = some remote ∧ place.depot.remotes.get? remote = some branches ∧
      ∀ older, branches.get? place.repository.branch = some older → place.depot.history.Reaches number older := by
  unfold push
  split
  · exact Or.inl ⟨_, Or.inl rfl⟩
  · rename_i remote origin
    unfold pushTo
    split
    · rename_i number branches head known
      simp only
      split
      · rename_i forward
        refine Or.inr ⟨remote, branches, number, rfl, head, origin, known, ?_⟩
        intro older here
        have branch : place.prepare.repository.branch = place.repository.branch := rfl
        rw [branch, here, Option.map_some, Option.getD_some] at forward
        exact History.mem_reach.mp (List.contains_iff_mem.mp forward)
      · exact Or.inl ⟨_, Or.inr rfl⟩
    · exact Or.inl ⟨_, Or.inr rfl⟩

omit [BEq κ] in
theorem tip_of_pushed (place : Workplace κ) (remote : String) (branches : Keyed Nat) (number : Nat) :
    (place.pushed remote branches number).tip = place.tip := (still_prepare place).rests.tip

omit [BEq κ] in
theorem push_ways (place : Workplace κ) :
    (Still place place.push.2 ∧ ∃ error, place.push.1 = .error error) ∨
    ∃ remote branches number, place.push = (.ok (), place.pushed remote branches number) ∧ place.tip = some number ∧
      place.repository.origin = some remote ∧ place.depot.remotes.get? remote = some branches ∧
      ∀ older, branches.get? place.repository.branch = some older → place.depot.history.Reaches number older := by
  rcases push_cases place with ⟨error, failed | failed⟩ | pushed
  · rw [failed]
    exact Or.inl ⟨.refl place, error, rfl⟩
  · rw [failed]
    exact Or.inl ⟨still_prepare place, error, rfl⟩
  · exact Or.inr pushed

-- A pull fails and changes nothing, or nothing goes wrong with it.
theorem pull_under_ways {mishap : Option Mishap} {answer : Except VersionError (Keyed κ)}
    (done : place.pullUnder mishap files branch = (answer, next)) :
    (Still place next ∧ ∃ error, answer = .error error) ∨
      ∃ taken, answer = .ok taken ∧ place.pull files branch = (.ok taken, next) := by
  unfold pullUnder at done
  split at done
  · cases answer with
    | error error =>
        refine Or.inl ⟨?_, error, rfl⟩
        rcases pull_error done with rfl | rfl | ⟨number, rfl⟩
        · exact .refl _
        · exact still_prepare place
        · exact (still_prepare place).trans ⟨⟨rfl, rfl⟩, rfl, rfl⟩
    | ok taken => exact Or.inr ⟨taken, rfl, done⟩
  · cases done
    exact Or.inl ⟨.refl _, _, rfl⟩
  · cases done
    exact Or.inl ⟨still_fetched place branch, _, rfl⟩
  · cases done
    exact Or.inl ⟨still_fetched place branch, _, rfl⟩

omit [BEq κ] in
theorem still_status (place : Workplace κ) (mishap : Option Mishap) (branch : String) :
    Still place (place.statusUnder mishap branch).2 := by
  unfold statusUnder
  split
  · exact still_prepare place
  · exact .refl place
  · exact still_prepare place
  · exact still_prepare place

theorem faulty_commit {state after : Workplace κ × List (Option Mishap)} {answer : Except VersionError CommitStatus}
    (done : faulty.commit state files paths message = (answer, after)) :
    state.1.commitUnder state.2.head?.join files paths message = (answer, after.1) := by
  cases done
  rfl

theorem faulty_pull {state after : Workplace κ × List (Option Mishap)} {answer : Except VersionError (Keyed κ)}
    (done : faulty.pull state files branch = (answer, after)) :
    state.1.pullUnder state.2.head?.join files branch = (answer, after.1) := by
  cases done
  rfl

theorem faulty_status {state : Workplace κ × List (Option Mishap)} {status : BranchStatus}
    (asked : (faulty.status state branch).1 = .ok status) : status = state.1.prepare.status branch := by
  cases mishap : state.2.head?.join with
  | none =>
      simp only [faulty, statusUnder, mishap] at asked
      exact (Except.ok.inj asked).symm
  | some what =>
      cases what <;> simp only [faulty, statusUnder, mishap] at asked <;> cases asked

-- The commits that branches stand at are there.
structure Valid (place : Workplace κ) : Prop where
  tip : ∀ number, place.tip = some number → number < place.depot.history.commits.length
  remotes : ∀ remote branch number, place.depot.head? remote branch = some number →
    number < place.depot.history.commits.length

omit [BEq κ] in
theorem Rests.valid (rests : Rests place next) (valid : Valid place) : Valid next := by
  refine ⟨?_, ?_⟩
  · rw [rests.tip, rests.depot]
    exact valid.tip
  · rw [rests.depot]
    exact valid.remotes

omit [BEq κ] in
theorem Rests.made (rests : Rests place next) :
    next.depot.history.commits.drop place.depot.history.commits.length = [] := by
  rw [rests.depot, List.drop_length]

omit [BEq κ] in
-- The one commit that was made.
theorem Commits.one (commits : Commits place next files paths) (valid : Valid place) :
    ∃ commit, next.depot.history.commits.drop place.depot.history.commits.length = [commit] ∧
      commit.parents = place.tip.toList ∧ ∀ path ∈ paths, commit.files.get? path = files.get? path := by
  obtain ⟨index, message, history, staged⟩ := commits.made
  refine ⟨⟨place.tip.toList, index, message⟩, ?_, rfl, staged⟩
  rw [history, History.add_of_inside valid.tip, List.drop_left]

omit [BEq κ] in
theorem Commits.valid (commits : Commits place next files paths) (valid : Valid place) : Valid next := by
  obtain ⟨index, message, history, _⟩ := commits.made
  have longer : next.depot.history.commits.length = place.depot.history.commits.length + 1 := by
    rw [history, History.add, List.length_append, List.length_singleton]
  refine ⟨?_, ?_⟩
  · intro number last
    rw [commits.tip] at last
    cases last
    omega
  · intro remote branch number there
    rw [Depot.head?, commits.remotes] at there
    have known := valid.remotes remote branch number there
    omega

omit [BEq κ] in
theorem head_of_moved_branch (depot : Depot κ) (remote branch : String) (branches : Keyed Nat) (number : Nat)
    (known : depot.remotes.get? remote = some branches) (other otherBranch : String) :
    ({ depot with remotes := depot.remotes.insert remote (branches.insert branch number) } : Depot κ).head? other otherBranch =
      if remote = other ∧ branch = otherBranch then some number else depot.head? other otherBranch := by
  unfold Depot.head?
  rw [Keyed.get?_insert]
  by_cases same : remote = other
  · subst same
    rw [if_pos rfl, known, Option.bind_some, Option.bind_some, Keyed.get?_insert]
    by_cases here : branch = otherBranch <;> simp [here]
  · rw [if_neg same, if_neg fun both => same both.1]

omit [BEq κ] in
theorem push_valid (valid : Valid place) : Valid place.push.2 := by
  rcases push_ways place with ⟨still, _⟩ | ⟨remote, branches, number, done, tip, _, known, _⟩
  · exact still.rests.valid valid
  · rw [done]
    refine ⟨?_, ?_⟩
    · rw [tip_of_pushed]
      exact valid.tip
    · intro other otherBranch last there
      rw [pushed, head_of_moved_branch place.depot remote _ branches number known] at there
      split at there
      · cases there
        exact valid.tip number tip
      · exact valid.remotes other otherBranch last there

theorem pull_valid (valid : Valid place) (done : place.pull files branch = (.ok taken, next)) : Valid next := by
  obtain ⟨remote, number, head, there, depot, _⟩ := head_of_pull done
  refine ⟨?_, ?_⟩
  · intro last lastTip
    rw [tip_of_head head] at lastTip
    cases lastTip
    rw [depot]
    exact valid.remotes remote branch number there
  · rw [depot]
    exact valid.remotes

omit [BEq κ] in
theorem push_under_valid (valid : Valid place) (mishap : Option Mishap) :
    Valid (place.pushUnder mishap).2 ∧ (place.pushUnder mishap).2.tip = place.tip ∧
      (place.pushUnder mishap).2.depot.history = place.depot.history := by
  have pushed : Valid place.push.2 ∧ place.push.2.tip = place.tip ∧ place.push.2.depot.history = place.depot.history := by
    refine ⟨push_valid valid, ?_⟩
    rcases push_ways place with ⟨still, _⟩ | ⟨remote, branches, number, done, _⟩
    · exact ⟨still.rests.tip, congrArg Depot.history still.rests.depot⟩
    · rw [done]
      exact ⟨tip_of_pushed place _ _ _, rfl⟩
  unfold pushUnder
  split
  · exact pushed
  · exact ⟨valid, rfl, rfl⟩
  · exact ⟨(still_prepare place).rests.valid valid, (still_prepare place).rests.tip, rfl⟩
  · exact pushed

omit [BEq κ] in
-- Commits of others change nothing here.
theorem Valid.added (valid : Valid place) (parents : List Nat) (files : Keyed κ) (message : String) :
    Valid { place with depot := { place.depot with history := (place.depot.history.add parents files message).2 } } := by
  have longer : (place.depot.history.add parents files message).2.commits.length = place.depot.history.commits.length + 1 := by
    rw [History.add, List.length_append, List.length_singleton]
  refine ⟨?_, ?_⟩
  · intro number last
    rw [longer]
    exact Nat.lt_succ_of_lt (valid.tip number last)
  · intro remote branch number there
    rw [longer]
    exact Nat.lt_succ_of_lt (valid.remotes remote branch number there)

end Workplace

-- Moves a branch of a remote to a commit that is there.
def Depot.moved {κ : Type} (depot : Depot κ) (remote branch : String) (number : Nat) : Depot κ :=
  match depot.remotes.get? remote with
  | none => depot
  | some branches =>
    if number < depot.history.commits.length then
      { depot with remotes := depot.remotes.insert remote (branches.insert branch number) }
    else depot

theorem Workplace.Valid.moved {κ : Type} {place : Workplace κ} (valid : Valid place) (remote branch : String)
    (number : Nat) :
    Valid { place with depot := place.depot.moved remote branch number } := by
  unfold Depot.moved
  split
  · exact valid
  · rename_i branches known
    split
    · rename_i inside
      refine ⟨valid.tip, ?_⟩
      intro other otherBranch last there
      rw [head_of_moved_branch place.depot remote branch branches number known] at there
      split at there
      · cases there
        exact inside
      · exact valid.remotes other otherBranch last there
    · exact valid

end Bookmarks
