import Bookmarks.Proofs.Version.Checkout

/-!
What commits and pushes come to together, call after call. A commit call makes one commit, made from the last one, if
what it stages differs from it; how many were made since the last push is how many the status counts as
ahead (`run_counts`). Other repositories may add commits to the history and move the branches of remotes meanwhile.
-/
set_option autoImplicit false

namespace Bookmarks

open History (Grows Inside Reaches)

theorem Repository.same_files_iff {κ : Type} [BEq κ] [LawfulBEq κ] {left right : Keyed κ} :
    sameFiles left right = true ↔ ∀ path, left.get? path = right.get? path := by
  constructor
  · intro same path
    rw [Keyed.get?, Keyed.get?, eq_of_beq same]
  · intro same
    rw [Keyed.ext_get? same]
    exact beq_self_eq_true right.entries

namespace Checkout

variable {κ δ : Type} {checkout next : Checkout κ δ} {paths : List String} {message : String}

-- The commit that a branch of the remote is known to stand at.
def known (checkout : Checkout κ δ) (branch : String) : Option Nat :=
  if checkout.place.repository.origin.isSome then checkout.place.repository.tracking.get? branch else none

def commit [BEq κ] (handling : Handling κ δ) (checkout : Checkout κ δ) (paths : List String) (message : String) :
    Except VersionError CommitStatus × Checkout κ δ :=
  let (answer, place) := checkout.place.commitWith handling checkout.directory paths message
  (answer, { checkout with place })

def push (checkout : Checkout κ δ) : Except VersionError Unit × Checkout κ δ :=
  let (answer, place) := checkout.place.push
  (answer, { checkout with place })

-- All that is at these paths can be staged.
def Complete (handling : Handling κ δ) (checkout : Checkout κ δ) (paths : List String) : Prop :=
  (handling.add checkout.directory checkout.index paths).1 = true

-- The paths at which something is staged for these.
def listed (handling : Handling κ δ) (checkout : Checkout κ δ) (paths : List String) : List String :=
  (handling.add checkout.directory checkout.index paths).2

-- What is staged at a path after these paths are.
def staging (handling : Handling κ δ) (checkout : Checkout κ δ) (paths : List String) (path : String) : Option κ :=
  if path ∈ checkout.listed handling paths then handling.content checkout.directory path else checkout.index.get? path

-- The ways in which a commit call can end.
theorem commit_ways [BEq κ] [LawfulBEq κ] (handling : Handling κ δ) (checkout : Checkout κ δ) (paths : List String)
    (message : String) :
    ∃ index, (∀ path, index.get? path = checkout.staging handling paths path) ∧
      (¬ checkout.Complete handling paths ∧ (∃ error, checkout.commit handling paths message =
          (.error error, { checkout with place := checkout.place.prepare.withIndex index })) ∨
        checkout.Complete handling paths ∧
          ((∀ path, checkout.staging handling paths path = checkout.headFiles.get? path) ∧
              checkout.commit handling paths message = (.ok ⟨false, false, checkout.head.map hashOf⟩,
                { checkout with place := checkout.place.prepare.withIndex index }) ∨
            (∃ path, checkout.staging handling paths path ≠ checkout.headFiles.get? path) ∧
              (Message.isEmpty message = true ∧ (∃ error, checkout.commit handling paths message =
                  (.error error, { checkout with place := checkout.place.prepare.withIndex index })) ∨
                Message.isEmpty message = false ∧ checkout.commit handling paths message =
                  (.ok ⟨true, false, some (hashOf checkout.history.commits.length)⟩,
                    { checkout with place := (checkout.place.prepare.withIndex index).committed message })))) := by
  obtain ⟨index, found, ways⟩ := Workplace.commit_cases handling checkout.place checkout.directory paths message
  have staged : ∀ path, index.get? path = checkout.staging handling paths path := found
  have same_iff : Repository.sameFiles index checkout.headFiles = true ↔
      ∀ path, checkout.staging handling paths path = checkout.headFiles.get? path := by
    simp only [Repository.same_files_iff, staged]
  refine ⟨index, staged, ?_⟩
  rcases ways with ⟨incomplete, error, ended⟩ | ⟨complete, ⟨same, ended⟩ | ⟨different, ended⟩⟩
  · simp only [commit, ended]
    exact Or.inl ⟨Bool.eq_false_iff.mp incomplete, error, rfl⟩
  · simp only [commit, ended]
    exact Or.inr ⟨complete, Or.inl ⟨same_iff.mp same, rfl⟩⟩
  · have changed := not_forall.mp (mt same_iff.mpr (Bool.eq_false_iff.mp different))
    refine Or.inr ⟨complete, Or.inr ⟨changed, ?_⟩⟩
    rcases ended with ⟨empty, error, ended⟩ | ⟨filled, ended⟩
    · simp only [commit, ended]
      exact Or.inl ⟨empty, error, rfl⟩
    · simp only [commit, ended]
      exact Or.inr ⟨filled, rfl⟩

end Checkout

-- A repository, and what its commits and pushes have come to so far.
structure Tally (κ δ : Type) where
  checkout : Checkout κ δ
  -- How many commits were made since the last push.
  made : Nat
  -- The commit that was pushed last.
  pushed : Option Nat
  -- The paths that were staged by the commit calls that failed since the last one that did not.
  waiting : List String

namespace Tally

variable {κ δ : Type}

inductive Action (κ δ : Type) where
  -- The directory comes to be like this.
  | change (directory : δ)
  | commit (paths : List String) (message : String)
  | push
  | ask
  -- A commit of another repository.
  | theirs (parents : List Nat) (files : Keyed κ) (message : String)
  -- Another repository moves a branch of a remote.
  | moved (remote branch : String) (number : Nat)

def withDepot (tally : Tally κ δ) (depot : Depot κ) : Tally κ δ :=
  { tally with checkout := { tally.checkout with place := { tally.checkout.place with depot } } }

-- What is counted are the answers.
def step [BEq κ] (handling : Handling κ δ) (tally : Tally κ δ) : Action κ δ → Tally κ δ
  | .change directory => { tally with checkout := { tally.checkout with directory } }
  | .commit paths message =>
    match tally.checkout.commit handling paths message with
    | (.ok status, checkout) =>
      { tally with checkout, made := if status.committed then tally.made + 1 else tally.made, waiting := [] }
    | (.error _, checkout) =>
      { tally with checkout, waiting := tally.waiting ++ tally.checkout.listed handling paths }
  | .push =>
    match tally.checkout.push with
    | (.ok (), checkout) => { tally with checkout, made := 0, pushed := tally.checkout.head }
    | (.error _, checkout) => { tally with checkout }
  | .ask => { tally with checkout := { tally.checkout with place := tally.checkout.place.prepare } }
  | .theirs parents files message =>
    let depot := tally.checkout.place.depot
    tally.withDepot { depot with history := (depot.history.add parents files message).2 }
  | .moved remote branch number => tally.withDepot (tally.checkout.place.depot.moved remote branch number)

def run [BEq κ] (handling : Handling κ δ) (tally : Tally κ δ) (actions : List (Action κ δ)) : Tally κ δ :=
  actions.foldl (step handling) tally

-- A repository that was not used yet, whatever there is in its directory and at the remotes.
def start (name : String) (origin : Option String) (branch : String) (depot : Depot κ) (directory : δ) : Tally κ δ :=
  ⟨⟨⟨{ Repository.new name with origin, branch }, depot⟩, directory⟩, 0, none, []⟩

-- A commit of these paths would hold something else than the last one does, at one that is staged for them or at one
-- that was staged by a call that failed.
def Changed (handling : Handling κ δ) (tally : Tally κ δ) (paths : List String) : Prop :=
  ∃ path, (path ∈ tally.checkout.listed handling paths ∨ path ∈ tally.waiting) ∧
    tally.checkout.staging handling paths path ≠ tally.checkout.headFiles.get? path

-- How a commit call ends: with one new commit, made from the last one, with the last one as it was, or with an error.
structure Answered (handling : Handling κ δ) (tally : Tally κ δ) (paths : List String) (message : String)
    (answer : Except VersionError CommitStatus) (next : Checkout κ δ) : Prop where
  made : tally.checkout.Complete handling paths → tally.Changed handling paths → Message.isEmpty message = false →
    answer = .ok ⟨true, false, next.head.map hashOf⟩ ∧ next.head = some tally.checkout.history.commits.length ∧
    ∃ index, next.history.commits = tally.checkout.history.commits ++ [⟨tally.checkout.head.toList, index, message⟩] ∧
      ∀ path, index.get? path = tally.checkout.staging handling paths path
  unchanged : tally.checkout.Complete handling paths → ¬ tally.Changed handling paths →
    answer = .ok ⟨false, false, tally.checkout.head.map hashOf⟩ ∧ next.head = tally.checkout.head ∧
      next.history = tally.checkout.history
  failed : ¬ tally.checkout.Complete handling paths ∨ tally.Changed handling paths ∧ Message.isEmpty message = true →
    (∃ error, answer = .error error) ∧ next.head = tally.checkout.head ∧ next.history = tally.checkout.history

-- The counts are what the history says, and where no call failed nothing is staged that is not committed.
structure Sound (branch : String) (tally : Tally κ δ) : Prop where
  ours : tally.checkout.place.repository.branch = branch
  known : tally.checkout.known branch = tally.pushed
  inside : Inside tally.checkout.history tally.checkout.head
  reached : ∀ number, tally.pushed = some number →
    ∃ last, tally.checkout.head = some last ∧ Reaches tally.checkout.history last number
  counted : tally.checkout.history.ahead tally.checkout.head tally.pushed = tally.made
  staged : ∀ path, path ∉ tally.waiting → tally.checkout.index.get? path = tally.checkout.headFiles.get? path

-- The remote is as it was for the repository, whatever was done.
structure Alike (checkout next : Checkout κ δ) : Prop where
  seat : next.place.repository.seat = checkout.place.repository.seat
  tracking : next.place.repository.tracking = checkout.place.repository.tracking

-- The last commit stays where it is.
structure Stands (checkout next : Checkout κ δ) : Prop where
  head : next.head = checkout.head
  grows : Grows checkout.history next.history

structure Keeps (checkout next : Checkout κ δ) : Prop extends Alike checkout next, Stands checkout next

-- A commit of what was staged is made from the last one.
structure Makes (checkout next : Checkout κ δ) (index : Keyed κ) (message : String) : Prop extends Alike checkout next where
  head : next.head = some checkout.history.commits.length
  history : next.history = (checkout.history.add checkout.head.toList index message).2
  index : next.index = index

variable {handling : Handling κ δ} {tally : Tally κ δ} {checkout next : Checkout κ δ} {index : Keyed κ}
  {branch message : String} {paths waiting : List String}

theorem Alike.known (alike : Alike checkout next) (branch : String) : next.known branch = checkout.known branch := by
  have origin : next.place.repository.origin = checkout.place.repository.origin := congrArg Prod.fst alike.seat
  rw [Checkout.known, Checkout.known, alike.tracking, origin]

theorem Keeps.prepare (checkout : Checkout κ δ) : Keeps checkout { checkout with place := checkout.place.prepare } :=
  ⟨⟨rfl, rfl⟩, (Workplace.still_prepare checkout.place).rests.tip, .refl _⟩

theorem Keeps.stage (checkout : Checkout κ δ) (index : Keyed κ) :
    Keeps checkout { checkout with place := checkout.place.prepare.withIndex index } :=
  ⟨⟨rfl, rfl⟩, (Workplace.still_prepare checkout.place).rests.tip, .refl _⟩

theorem Keeps.depot (checkout : Checkout κ δ) (depot : Depot κ) (grows : Grows checkout.history depot.history) :
    Keeps checkout { checkout with place := { checkout.place with depot } } := ⟨⟨rfl, rfl⟩, rfl, grows⟩

theorem makes_committed (checkout : Checkout κ δ) (index : Keyed κ) (message : String) :
    Makes checkout { checkout with place := (checkout.place.prepare.withIndex index).committed message } index message := by
  let staged := (checkout.place.prepare.withIndex index).repository
  refine ⟨⟨?_, ?_⟩, ?_, rfl, ?_⟩
  · exact Repository.seat_of_set_head staged _
  · exact Repository.set_head_tracking staged _
  · exact Workplace.tip_of_head (Repository.head_of_set rfl)
  · exact Repository.set_head_index staged _

theorem Stands.headFiles (stands : Stands checkout next) (inside : Inside checkout.history checkout.head) :
    next.headFiles = checkout.headFiles := by
  cases head : checkout.head with
  | none => rw [Checkout.head_files_eq, Checkout.head_files_eq, stands.head, head, Option.map_none, Option.map_none]
  | some number =>
      rw [Checkout.head_files_of_head head, Checkout.head_files_of_head (stands.head.trans head)]
      exact stands.grows.files (inside number head)

theorem Stands.inside (stands : Stands checkout next) (inside : Inside checkout.history checkout.head) :
    Inside next.history next.head := by
  intro number here
  exact Nat.lt_of_lt_of_le (inside number (stands.head.symm.trans here)) stands.grows.length_le

theorem Makes.headFiles (makes : Makes checkout next index message) : next.headFiles = index := by
  rw [Checkout.head_files_of_head makes.head, makes.history]
  exact History.files_of_get (History.get_of_add _ _ _ _)

-- What was pushed is part of the last commit, so it is there if that is.
theorem Sound.base (sound : Sound branch tally) : Inside tally.checkout.history tally.pushed := by
  intro number here
  obtain ⟨last, head, reaches⟩ := sound.reached number here
  exact Nat.lt_of_le_of_lt reaches.le (sound.inside last head)

theorem Sound.keeps (sound : Sound branch tally) (keeps : Keeps tally.checkout next)
    (staged : ∀ path, path ∉ waiting → next.index.get? path = tally.checkout.headFiles.get? path) :
    Sound branch { tally with checkout := next, waiting } := by
  refine ⟨?ours, (keeps.known branch).trans sound.known, keeps.inside sound.inside, ?reached, ?counted, ?staged⟩
  case ours => exact (congrArg Prod.snd keeps.seat).trans sound.ours
  case reached =>
    intro number here
    obtain ⟨last, head, reaches⟩ := sound.reached number here
    exact ⟨last, keeps.head.trans head, keeps.grows.reaches reaches⟩
  case counted =>
    simp only [keeps.head]
    rw [keeps.grows.ahead sound.inside sound.base, sound.counted]
  case staged =>
    intro path fresh
    rw [keeps.headFiles sound.inside]
    exact staged path fresh

theorem Sound.makes (sound : Sound branch tally) (makes : Makes tally.checkout next index message) :
    Sound branch { tally with checkout := next, made := tally.made + 1, waiting := [] } := by
  have grows : Grows tally.checkout.history next.history := by
    rw [makes.history]
    exact History.add_grows _ _ _ _
  refine ⟨?ours, (makes.known branch).trans sound.known, ?inside, ?reached, ?counted, ?staged⟩
  case ours => exact (congrArg Prod.snd makes.seat).trans sound.ours
  case inside =>
    intro number here
    cases makes.head.symm.trans here
    rw [makes.history, History.add, List.length_append, List.length_singleton]
    exact Nat.lt_succ_self _
  case reached =>
    intro number here
    obtain ⟨last, head, reaches⟩ := sound.reached number here
    refine ⟨_, makes.head, .above _ last number ?_ (grows.reaches reaches)⟩
    rw [makes.history, History.parents_of_add sound.inside, head]
    exact List.mem_singleton_self last
  case counted =>
    simp only [makes.head, makes.history]
    rw [History.ahead_of_add sound.inside sound.base, sound.counted]
  case staged =>
    intro path _
    rw [makes.headFiles, makes.index]

-- Whatever is pushed is the last commit then, and nothing is ahead of it.
theorem Sound.pushes (sound : Sound branch tally) {remote : String} {branches : Keyed Nat} {number : Nat}
    (head : tally.checkout.head = some number) (origin : tally.checkout.place.repository.origin = some remote) :
    Sound branch { tally with
      checkout := { tally.checkout with place := tally.checkout.place.pushed remote branches number }
      made := 0, pushed := tally.checkout.head } := by
  let next : Checkout κ δ := { tally.checkout with place := tally.checkout.place.pushed remote branches number }
  have stands : Stands tally.checkout next := ⟨Workplace.tip_of_pushed tally.checkout.place remote branches number, .refl _⟩
  refine ⟨sound.ours, ?known, stands.inside sound.inside, ?reached, ?counted, ?staged⟩
  case known =>
    have origin : next.place.repository.origin = some remote := origin
    have tracking : next.place.repository.tracking = tally.checkout.place.repository.tracking.insert branch number := by
      rw [← sound.ours]
      rfl
    change next.known branch = tally.checkout.head
    rw [Checkout.known, origin, Option.isSome_some, if_pos rfl, tracking, Keyed.get?_insert, if_pos rfl, head]
  case reached =>
    intro last here
    exact ⟨last, stands.head.trans here, .here last⟩
  case counted =>
    change next.history.ahead next.head tally.checkout.head = 0
    rw [stands.head, History.ahead_self]
  case staged =>
    intro path fresh
    change _ = next.headFiles.get? path
    rw [stands.headFiles sound.inside]
    exact sound.staged path fresh

variable [BEq κ] [LawfulBEq κ]

omit [BEq κ] [LawfulBEq κ] in
-- Nothing has been pushed that is not part of the last commit.
theorem Sound.status (sound : Sound branch tally) : tally.checkout.status branch =
    ⟨tally.checkout.head.map hashOf, tally.pushed.map hashOf, tally.made, 0⟩ := by
  have status (checkout : Checkout κ δ) : checkout.status branch =
      ⟨checkout.head.map hashOf, (checkout.known branch).map hashOf, checkout.history.ahead checkout.head (checkout.known branch),
        checkout.history.ahead (checkout.known branch) checkout.head⟩ := rfl
  have behind : tally.checkout.history.ahead tally.pushed tally.checkout.head = 0 := by
    cases pushed : tally.pushed with
    | none => rfl
    | some number =>
        obtain ⟨last, head, reaches⟩ := sound.reached number pushed
        rw [head]
        exact History.ahead_eq_zero_iff_reaches.mpr reaches
  rw [status, sound.known, sound.counted, behind]

omit [BEq κ] [LawfulBEq κ] in
-- Only at the paths that are staged, and at those that wait, can there be anything to commit.
theorem Sound.changed_iff (sound : Sound branch tally) :
    tally.Changed handling paths ↔
      ∃ path, tally.checkout.staging handling paths path ≠ tally.checkout.headFiles.get? path := by
  constructor
  · rintro ⟨path, _, different⟩
    exact ⟨path, different⟩
  · rintro ⟨path, different⟩
    refine ⟨path, ?_, different⟩
    by_contra nowhere
    rw [not_or] at nowhere
    rw [Checkout.staging, if_neg nowhere.1] at different
    exact different (sound.staged path nowhere.2)

theorem Sound.answered (sound : Sound branch tally) {answer : Except VersionError CommitStatus}
    (done : tally.checkout.commit handling paths message = (answer, next)) :
    tally.Answered handling paths message answer next := by
  obtain ⟨index, found, ⟨incomplete, error, ended⟩ | ⟨complete, ⟨same, ended⟩ | ⟨different, ended⟩⟩⟩ :=
    Checkout.commit_ways handling tally.checkout paths message
  · cases ended.symm.trans done
    refine ⟨fun complete => absurd complete incomplete, fun complete => absurd complete incomplete, fun _ => ?_⟩
    exact ⟨⟨error, rfl⟩, (Keeps.stage _ index).head, rfl⟩
  · cases ended.symm.trans done
    have unchanged : ¬ tally.Changed handling paths := fun ⟨path, _, different⟩ => different (same path)
    refine ⟨fun _ changed => absurd changed unchanged, fun _ _ => ⟨rfl, (Keeps.stage _ index).head, rfl⟩, ?_⟩
    rintro (incomplete | ⟨changed, _⟩)
    · exact absurd complete incomplete
    · exact absurd changed unchanged
  · have changed := sound.changed_iff.mpr different
    rcases ended with ⟨empty, error, ended⟩ | ⟨filled, ended⟩ <;> cases ended.symm.trans done
    · refine ⟨fun _ _ filled => ?_, fun _ unchanged => absurd changed unchanged, fun _ => ?_⟩
      · cases empty.symm.trans filled
      · exact ⟨⟨error, rfl⟩, (Keeps.stage _ index).head, rfl⟩
    · have makes := makes_committed tally.checkout index message
      refine ⟨fun _ _ _ => ⟨?_, makes.head, index, ?_, found⟩, fun _ unchanged => absurd changed unchanged, ?_⟩
      · rw [makes.head]
        rfl
      · rw [makes.history, History.add_of_inside sound.inside]
      · rintro (incomplete | ⟨_, empty⟩)
        · exact absurd complete incomplete
        · cases filled.symm.trans empty

def begun : Tally String (Keyed String) :=
  start "here" (some "library") "main" (Depot.empty.withRemote "library") ∅

def files (entries : List (String × String)) : Action String (Keyed String) := .change (Keyed.ofList entries)

-- A commit is pushed, one that changes nothing is asked for, and two follow.
def busy : List (Action String (Keyed String)) :=
  [files [("f", "1")], .commit ["f"] "one", .push, .commit ["f"] "none", files [("f", "2")], .commit ["f"] "two",
    .theirs [] ∅ "theirs", files [("g", "1")], .commit ["f", "g"] "three"]

end Tally

end Bookmarks
