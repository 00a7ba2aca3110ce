import Bookmarks.Proofs.Version.Mishaps

/-!
How repositories move on when each of them commits, pushes and pulls, and any of that can go wrong. Wherever a
repository or a branch of a remote stood before, it comes to stand at a commit that was made from there
(`Advances`). A file that the last commit has and that is staged as it is there stays so, or gives way to the one of a
later commit (`commit_lands`, `pull_lands`).
-/
set_option autoImplicit false

namespace Bookmarks

open History (Grows Reaches)

namespace Workplace

variable {κ : Type} {place next last : Workplace κ} {files taken : Keyed κ} {branch path message : String}
  {paths : List String} {number : Nat} {mishap : Option Mishap} {δ : Type} {handling : Handling κ δ} {directory left : δ}

structure Advances (place next : Workplace κ) : Prop where
  seat : next.repository.seat = place.repository.seat
  grows : Grows place.depot.history next.depot.history
  tip : ∀ older, place.tip = some older → ∃ number, next.tip = some number ∧ next.depot.history.Reaches number older
  heads : ∀ remote branch older, place.depot.head? remote branch = some older →
    ∃ number, next.depot.head? remote branch = some number ∧ next.depot.history.Reaches number older
  valid : Valid place → Valid next

theorem Advances.trans (first : Advances place next) (second : Advances next last) : Advances place last := by
  refine ⟨second.seat.trans first.seat, first.grows.trans second.grows, ?tip, ?heads, fun valid => second.valid (first.valid valid)⟩
  case tip =>
    intro older here
    obtain ⟨between, there, reaches⟩ := first.tip older here
    obtain ⟨number, last, more⟩ := second.tip between there
    exact ⟨number, last, more.trans (second.grows.reaches reaches)⟩
  case heads =>
    intro remote branch older here
    obtain ⟨between, there, reaches⟩ := first.heads remote branch older here
    obtain ⟨number, last, more⟩ := second.heads remote branch between there
    exact ⟨number, last, more.trans (second.grows.reaches reaches)⟩

theorem Rests.advances (rests : Rests place next) (seat : next.repository.seat = place.repository.seat) :
    Advances place next := by
  refine ⟨seat, ?_, ?_, ?_, rests.valid⟩
  · rw [rests.depot]
    exact .refl _
  · intro older here
    exact ⟨older, rests.tip.trans here, .here older⟩
  · intro remote branch older here
    exact ⟨older, by rw [rests.depot]; exact here, .here older⟩

theorem Still.advances (still : Still place next) : Advances place next := still.rests.advances still.seat

theorem Commits.advances (commits : Commits place next files paths)
    (seat : next.repository.seat = place.repository.seat) (valid : Valid place) : Advances place next := by
  obtain ⟨index, message, history, _⟩ := commits.made
  have grows : Grows place.depot.history next.depot.history := by
    rw [history]
    exact History.add_grows _ _ _ _
  refine ⟨seat, grows, ?_, ?_, fun valid => commits.valid valid⟩
  · intro older here
    refine ⟨_, commits.tip, .of_parent ?_⟩
    rw [history, History.parents_of_add valid.tip, here]
    exact List.mem_singleton_self older
  · intro remote branch older here
    refine ⟨older, ?_, .here older⟩
    rw [Depot.head?, commits.remotes]
    exact here

-- After a push that succeeded the branch of the remote stands at the last commit.
theorem push_advances (place : Workplace κ) :
    Advances place place.push.2 ∧ (place.push.1 = .ok () → ∃ remote, place.repository.origin = some remote ∧
      place.push.2.depot.head? remote place.repository.branch = place.push.2.tip ∧ place.push.2.tip.isSome = true) := by
  rcases push_ways place with ⟨still, error, failed⟩ | ⟨remote, branches, number, done, tip, origin, known, forward⟩
  · refine ⟨still.advances, fun succeeded => ?_⟩
    rw [failed] at succeeded
    cases succeeded
  · have sameTip := tip_of_pushed place remote branches number
    have head := head_of_moved_branch place.depot remote place.repository.branch branches number known
    have valid : Valid place → Valid place.push.2 := push_valid
    rw [done] at valid ⊢
    refine ⟨⟨rfl, .refl _, ?_, ?_, valid⟩, fun _ => ⟨remote, origin, ?_, ?_⟩⟩
    · intro older here
      exact ⟨older, sameTip.trans here, .here older⟩
    · intro other otherBranch older here
      simp only [pushed, head]
      by_cases moved : remote = other ∧ place.repository.branch = otherBranch
      · obtain ⟨rfl, rfl⟩ := moved
        rw [Depot.head?, known, Option.bind_some] at here
        exact ⟨number, if_pos ⟨rfl, rfl⟩, forward older here⟩
      · exact ⟨older, by rw [if_neg moved, here], .here older⟩
    · exact (head _ _).trans ((if_pos ⟨rfl, rfl⟩).trans (sameTip.trans tip).symm)
    · rw [sameTip, tip]
      rfl

theorem push_under_advances (place : Workplace κ) (mishap : Option Mishap) :
    Advances place (place.pushUnder mishap).2 := by
  obtain ⟨advances, _⟩ := push_advances place
  unfold pushUnder
  split
  · exact advances
  · exact (Rests.refl place).advances rfl
  · exact (still_prepare place).advances
  · exact advances

theorem push_under_ok (succeeded : (place.pushUnder mishap).1 = .ok ()) : place.pushUnder mishap = place.push := by
  unfold pushUnder at succeeded ⊢
  split at succeeded
  · rfl
  · cases succeeded
  · cases succeeded
  · cases succeeded

variable [BEq κ]

theorem seat_of_staged (place : Workplace κ) (files : Keyed κ) (paths : List String) :
    (place.staged files paths).repository.seat = place.repository.seat := by
  obtain ⟨index, same, _⟩ := Handling.index_of_stage .plain place.prepare.repository files paths
  rw [staged, same]
  rfl

theorem seat_of_commit (place : Workplace κ) (files : Keyed κ) (paths : List String) (message : String) :
    (place.commit files paths message).2.repository.seat = place.repository.seat := by
  unfold commit
  obtain ⟨index, _, ⟨_, error, ended⟩ | ⟨_, ⟨_, ended⟩ | ⟨_, ⟨_, error, ended⟩ | ⟨_, ended⟩⟩⟩⟩ :=
    commit_cases .plain place files paths message <;> rw [ended]
  · rfl
  · rfl
  · rfl
  · exact Repository.seat_of_set_head _ _

theorem commit_under_advances (place : Workplace κ) (valid : Valid place) (mishap : Option Mishap) (files : Keyed κ)
    (paths : List String) (message : String) : Advances place (place.commitUnder mishap files paths message).2 := by
  have seat : (place.commitUnder mishap files paths message).2.repository.seat = place.repository.seat := by
    unfold commitUnder
    split
    · exact seat_of_commit place files paths message
    · rfl
    · exact seat_of_staged place files paths
    · exact seat_of_commit place files paths message
  rcases commit_under_ways (Prod.eta (place.commitUnder mishap files paths message)).symm with ⟨rests, _⟩ | ⟨commits, _⟩
  · exact rests.advances seat
  · exact commits.advances seat valid

omit [BEq κ] in
theorem status_under_of_head (head : place.head = some number) (mishap : Option Mishap) (branch : String) :
    (place.statusUnder mishap branch).2 = place := by
  have prepared := prepare_of_head head
  unfold statusUnder
  split
  · exact prepared
  · rfl
  · exact prepared
  · exact prepared

theorem commit_under_ok {status : CommitStatus}
    (done : place.commitUnder mishap files paths message = (.ok status, next)) :
    place.commit files paths message = (.ok status, next) := by
  unfold commitUnder at done
  split at done
  · exact done
  · cases done
  · cases done
  · cases done

omit [BEq κ] in
-- After a pull the last commit is the one at the remote, and that is known.
theorem still_of_pull (done : place.pullWith handling directory branch = (.ok left, next)) : ∃ remote number,
    place.repository.origin = some remote ∧ place.depot.head? remote branch = some number ∧ next.head = some number ∧
      next.repository.seat = place.repository.seat ∧ next.repository.tracking.get? branch = some number := by
  have tracked (number : Nat) : (place.prepare.tracked branch number).repository.tracking.get? branch = some number := by
    rw [tracked, Keyed.get?_insert, if_pos rfl]
  obtain ⟨remote, number, origin, there, ⟨unborn, started⟩ | ⟨same, _, rfl⟩ | ⟨older, head, _, _, moved⟩⟩ := pull_cases done
  · obtain ⟨_, _, last, _, _, seat, tracking⟩ := check_out_ok started
    exact ⟨remote, number, origin, there, last, seat, by rw [tracking]; exact tracked number⟩
  · exact ⟨remote, number, origin, there, same, rfl, tracked number⟩
  · obtain ⟨_, _, moves, _, _, seat, tracking⟩ := forward_ok moved
    exact ⟨remote, number, origin, there, moves (Repository.prepare_in_use place.repository), seat,
      by rw [tracking]; exact tracked number⟩

theorem pull_advances (done : place.pull files branch = (.ok taken, next)) : Advances place next := by
  obtain ⟨_, number, head, _, depot, reaches⟩ := head_of_pull done
  obtain ⟨_, _, _, _, _, seat, _⟩ := still_of_pull done
  refine ⟨seat, ?_, ?_, ?_, fun valid => pull_valid valid done⟩
  · rw [depot]
    exact .refl _
  · intro older here
    refine ⟨number, tip_of_head head, ?_⟩
    rw [depot]
    exact reaches older here
  · intro remote branch older here
    exact ⟨older, by rw [depot]; exact here, .here older⟩

-- The last commit has this at a path, and that is staged.
def Holding (place : Workplace κ) (path : String) (content : κ) : Prop :=
  ∀ number, place.tip = some number → (place.depot.history.filesOf number).get? path = some content ∧
    place.repository.index.get? path = some content

variable {content target : κ}

omit [BEq κ] in
theorem Still.holding (still : Still place next) (holding : Holding place path content) :
    Holding next path content := by
  intro number last
  rw [still.rests.depot, still.index]
  exact holding number (still.rests.tip.symm.trans last)

theorem lookup_of_same {a b : List (String × κ)} (same : (a == b) = true) (path : String) :
    (Keyed.lookup path a == Keyed.lookup path b) = true := by
  induction a generalizing b with
  | nil =>
      cases b with
      | nil => rfl
      | cons entry rest => cases same
  | cons entry rest ih =>
      cases b with
      | nil => cases same
      | cons other more =>
          obtain ⟨key, value⟩ := entry
          obtain ⟨otherKey, otherValue⟩ := other
          have parts : ((key == otherKey && value == otherValue) && rest == more) = true := same
          simp only [Bool.and_eq_true, beq_iff_eq] at parts
          obtain ⟨⟨rfl, values⟩, others⟩ := parts
          unfold Keyed.lookup
          split
          · exact values
          · exact ih others

omit [BEq κ] in
theorem push_under_holding (holding : Holding place path content) (mishap : Option Mishap) :
    Holding (place.pushUnder mishap).2 path content := by
  have pushed : Holding place.push.2 path content := by
    intro number last
    rcases push_ways place with ⟨still, _⟩ | ⟨remote, branches, other, done, _⟩
    · exact still.holding holding number last
    · rw [done] at last ⊢
      exact holding number ((tip_of_pushed place remote branches other).symm.trans last)
  unfold pushUnder
  split
  · exact pushed
  · exact holding
  · exact (still_prepare place).holding holding
  · exact pushed

-- If what is staged is what the last commit has, there is one.
theorem held_of_same (same : Repository.sameFiles files place.headFiles = true) (here : files.get? path = some content)
    (exact : ∀ other, (content == other) = true → other = content) :
    ∃ number, place.head = some number ∧ (place.depot.history.filesOf number).get? path = some content := by
  have equal : (files.get? path == place.headFiles.get? path) = true := lookup_of_same same path
  cases head : place.head with
  | none =>
      rw [headFiles, head, here] at equal
      cases equal
  | some number =>
      rw [headFiles, head, here, Option.map_some, Option.getD_some] at equal
      refine ⟨number, rfl, ?_⟩
      cases former : (place.depot.history.filesOf number).get? path with
      | none =>
          rw [former] at equal
          cases equal
      | some other =>
          rw [former] at equal
          rw [exact other equal]

-- A commit that succeeds holds what it was asked to hold, or the last one does already.
theorem commit_lands {status : CommitStatus} (done : place.commit files paths message = (.ok status, next))
    (listed : path ∈ paths) (there : files.get? path = some content)
    (exact : ∀ other, (content == other) = true → other = content) :
    Holding next path content ∧ next.tip.isSome = true ∧
      ((status.committed = false ∧ Rests place next) ∨ (status.committed = true ∧ Commits place next files paths)) := by
  have ways := commit_ways done
  obtain ⟨index, found, ⟨_, error, ended⟩ | ⟨complete, ⟨same, ended⟩ | ⟨_, ⟨_, error, ended⟩ | ⟨_, ended⟩⟩⟩⟩ :=
    commit_cases .plain place files paths message <;> cases ended.symm.trans done
  · have here : index.get? path = some content := by rw [found, Handling.staging_plain complete listed, there]
    obtain ⟨number, head, held⟩ := held_of_same same here exact
    have tip : (place.prepare.withIndex index).tip = some number := tip_of_head head
    refine ⟨?_, by rw [tip]; rfl, Or.inl ⟨rfl, (still_prepare place).rests.trans ⟨rfl, rfl⟩⟩⟩
    intro other last
    cases tip.symm.trans last
    exact ⟨held, here⟩
  · have here : index.get? path = some content := by rw [found, Handling.staging_plain complete listed, there]
    rcases ways with ⟨_, impossible⟩ | ⟨commits, _⟩
    · cases impossible _ rfl
    · refine ⟨?_, by rw [commits.tip]; rfl, Or.inr ⟨rfl, commits⟩⟩
      intro number last
      cases commits.tip.symm.trans last
      refine ⟨?_, (congrArg (Keyed.get? · path) (Repository.set_head_index _ _)).trans here⟩
      exact (congrArg (Keyed.get? · path) (History.files_of_get (History.get_of_add _ _ _ _))).trans here

-- What is at a path before and after a pull, if it was as in the last commit.
theorem pull_lands (done : place.pull files branch = (.ok taken, next)) (holding : Holding place path content)
    (there : files.get? path = some content) (exact : ∀ other, (content == other) = true → other = content)
    (goal : ∀ number, next.head = some number → (place.depot.history.filesOf number).get? path = some target) :
    taken.get? path = some target ∧ next.repository.index.get? path = some target := by
  obtain ⟨remote, number, _, _, ⟨unborn, started⟩ | ⟨same, rfl, rfl⟩ | ⟨older, head, _, _, moved⟩⟩ := pull_cases done
  · obtain ⟨_, treated, last, _, index, _⟩ := check_out_ok started
    rw [index]
    exact Handling.check_out_plain_lands treated (goal number last)
  · have found := goal number same
    obtain ⟨former, staged⟩ := holding number same
    rw [former] at found
    cases found
    exact ⟨there, staged⟩
  · obtain ⟨former, staged⟩ := holding older head
    obtain ⟨_, treated, moves, _, index, _⟩ := forward_ok moved
    have before : (place.prepare.tracked branch number).headFiles.get? path = some content := by
      rw [headFiles, show (place.prepare.tracked branch number).head = some older from head]
      exact former
    rw [index]
    exact Handling.forward_plain_lands treated exact before staged there
      (goal number (moves (Repository.prepare_in_use place.repository)))

omit [BEq κ] in
-- After a pull neither side is ahead of the other.
theorem status_of_pull (done : place.pullWith handling directory branch = (.ok left, next)) : ∃ remote number,
    place.repository.origin = some remote ∧ place.depot.head? remote branch = some number ∧ next.head = some number ∧
      next.status branch = ⟨some (hashOf number), some (hashOf number), 0, 0⟩ := by
  obtain ⟨remote, number, origin, there, head, seat, tracking⟩ := still_of_pull done
  have sameOrigin : next.repository.origin = some remote := (congrArg Prod.fst seat).trans origin
  refine ⟨remote, number, origin, there, head, ?_⟩
  simp only [status, sameOrigin, head, tracking, Option.isSome_some, if_true, Option.map_some, History.ahead_self]

end Workplace

end Bookmarks
