import Bookmarks.Version.History

/-!
Which commits can be reached from which. A history is read downwards once to list them (`History.reach`); the
list holds what one comes to by going from a commit to its parents (`mem_reach`). A history that only grows
leaves all of that as it is.
-/
set_option autoImplicit false

namespace Bookmarks.History

variable {κ : Type} {history next : History κ} {number parent other last : Nat}

-- A commit reaches itself, and what its parents reach.
inductive Reaches (history : History κ) : Nat → Nat → Prop
  | here (number : Nat) : Reaches history number number
  | above (number parent other : Nat) (isParent : parent ∈ history.parentsOf number)
      (reaches : Reaches history parent other) : Reaches history number other

theorem parents_of_get {commit : Commit κ} (found : history.get? number = some commit) :
    history.parentsOf number = commit.parents := by
  rw [parentsOf, found]
  rfl

theorem files_of_get {commit : Commit κ} (found : history.get? number = some commit) :
    history.filesOf number = commit.files := by
  rw [filesOf, found]
  rfl

theorem get_of_parent (isParent : parent ∈ history.parentsOf number) :
    ∃ commit, history.get? number = some commit ∧ parent ∈ commit.parents := by
  unfold parentsOf at isParent
  cases found : history.get? number with
  | none =>
      rw [found] at isParent
      cases isParent
  | some commit =>
      rw [found] at isParent
      exact ⟨commit, rfl, isParent⟩

theorem parent_lt (isParent : parent ∈ history.parentsOf number) : parent < number := by
  obtain ⟨commit, found, listed⟩ := get_of_parent isParent
  exact history.older number commit parent found listed

theorem Reaches.le (reaches : Reaches history number other) : other ≤ number := by
  induction reaches with
  | here number => exact Nat.le_refl number
  | above number parent other isParent _ ih => exact Nat.le_trans ih (Nat.le_of_lt (parent_lt isParent))

theorem Reaches.trans (first : Reaches history number other) (second : Reaches history other last) :
    Reaches history number last := by
  induction first with
  | here number => exact second
  | above number parent other isParent _ ih => exact .above number parent last isParent (ih second)

theorem Reaches.of_parent (isParent : parent ∈ history.parentsOf number) : Reaches history number parent :=
  .above number parent parent isParent (.here parent)

-- One pass downwards: what is wanted below the limit, and all that it reaches.
theorem mem_sweep {limit : Nat} {wanted : List Nat} :
    other ∈ history.sweep limit wanted ↔ ∃ number ∈ wanted, number < limit ∧ Reaches history number other := by
  induction limit generalizing wanted with
  | zero => simp [sweep]
  | succ limit ih =>
      unfold sweep
      by_cases listed : wanted.contains limit = true
      · have isWanted : limit ∈ wanted := List.contains_iff_mem.mp listed
        rw [if_pos listed, List.mem_cons, ih]
        constructor
        · rintro (rfl | ⟨number, member, below, reaches⟩)
          · exact ⟨other, isWanted, Nat.lt_succ_self other, .here other⟩
          · rcases List.mem_append.mp member with isParent | isWantedToo
            · exact ⟨limit, isWanted, Nat.lt_succ_self limit, .above limit number other isParent reaches⟩
            · exact ⟨number, isWantedToo, Nat.lt_succ_of_lt below, reaches⟩
        · rintro ⟨number, member, below, reaches⟩
          rcases Nat.lt_succ_iff_lt_or_eq.mp below with less | rfl
          · exact Or.inr ⟨number, List.mem_append.mpr (Or.inr member), less, reaches⟩
          · cases reaches with
            | here _ => exact Or.inl rfl
            | above _ parent _ isParent reaches =>
                exact Or.inr ⟨parent, List.mem_append.mpr (Or.inl isParent), parent_lt isParent, reaches⟩
      · rw [if_neg listed, ih]
        constructor
        · rintro ⟨number, member, below, reaches⟩
          exact ⟨number, member, Nat.lt_succ_of_lt below, reaches⟩
        · rintro ⟨number, member, below, reaches⟩
          have different : number ≠ limit := by
            rintro rfl
            exact listed (List.contains_iff_mem.mpr member)
          exact ⟨number, member, Nat.lt_of_le_of_ne (Nat.le_of_lt_succ below) different, reaches⟩

theorem mem_reach : other ∈ history.reach (some number) ↔ Reaches history number other := by
  rw [reach, mem_sweep]
  constructor
  · rintro ⟨wanted, member, _, reaches⟩
    rw [List.mem_singleton.mp member] at reaches
    exact reaches
  · intro reaches
    exact ⟨number, List.mem_singleton.mpr rfl, Nat.lt_succ_self number, reaches⟩

theorem sweep_nodup (history : History κ) (limit : Nat) (wanted : List Nat) : (history.sweep limit wanted).Nodup := by
  induction limit generalizing wanted with
  | zero => exact .nil
  | succ limit ih =>
      unfold sweep
      split
      · refine List.nodup_cons.mpr ⟨fun again => ?_, ih _⟩
        obtain ⟨number, _, below, reaches⟩ := mem_sweep.mp again
        exact Nat.lt_irrefl limit (Nat.lt_of_le_of_lt reaches.le below)
      · exact ih _

theorem reach_nodup (history : History κ) (head : Option Nat) : (history.reach head).Nodup := by
  cases head with
  | none => exact .nil
  | some number => exact sweep_nodup history _ _

theorem ahead_eq_zero {head other : Option Nat} :
    history.ahead head other = 0 ↔ ∀ number ∈ history.reach head, number ∈ history.reach other := by
  rw [ahead, List.length_eq_zero_iff, List.filter_eq_nil_iff]
  simp

theorem ahead_self (history : History κ) (head : Option Nat) : history.ahead head head = 0 :=
  ahead_eq_zero.mpr fun _ member => member

-- No commit is ahead of another one exactly if that one reaches it.
theorem ahead_eq_zero_iff_reaches : history.ahead (some number) (some other) = 0 ↔ Reaches history other number := by
  rw [ahead_eq_zero]
  constructor
  · intro all
    exact mem_reach.mp (all number (mem_reach.mpr (.here number)))
  · intro reaches member found
    exact mem_reach.mpr (reaches.trans (mem_reach.mp found))

-- Commits are added, and none is changed.
def Grows (history next : History κ) : Prop := history.commits <+: next.commits

theorem Grows.refl (history : History κ) : Grows history history := List.prefix_rfl

theorem Grows.trans {last : History κ} (first : Grows history next) (second : Grows next last) : Grows history last :=
  List.IsPrefix.trans first second

theorem Grows.get {commit : Commit κ} (grows : Grows history next) (found : history.get? number = some commit) :
    next.get? number = some commit := by
  obtain ⟨added, same⟩ := grows
  obtain ⟨inside, _⟩ := List.getElem?_eq_some_iff.mp found
  rw [get?, ← same, List.getElem?_append_left inside]
  exact found

theorem Grows.files (grows : Grows history next) (inside : number < history.commits.length) :
    next.filesOf number = history.filesOf number := by
  have found : history.get? number = some history.commits[number] := List.getElem?_eq_getElem inside
  rw [files_of_get (grows.get found), files_of_get found]

theorem Grows.reaches (grows : Grows history next) (reaches : Reaches history number other) :
    Reaches next number other := by
  induction reaches with
  | here number => exact .here number
  | above number parent other isParent _ ih =>
      obtain ⟨commit, found, listed⟩ := get_of_parent isParent
      refine .above number parent other ?_ ih
      rw [parents_of_get (grows.get found)]
      exact listed

theorem Grows.parents (grows : Grows history next) (inside : number < history.commits.length) :
    next.parentsOf number = history.parentsOf number := by
  have found : history.get? number = some history.commits[number] := List.getElem?_eq_getElem inside
  rw [parents_of_get (grows.get found), parents_of_get found]

theorem Grows.sweep (grows : Grows history next) {limit : Nat} (inside : limit ≤ history.commits.length)
    (wanted : List Nat) :
    next.sweep limit wanted = history.sweep limit wanted := by
  induction limit generalizing wanted with
  | zero => rfl
  | succ limit ih =>
      have below := ih (Nat.le_of_lt inside)
      unfold History.sweep
      rw [grows.parents inside, below, below]

-- The commit is there, if there is one.
def Inside (history : History κ) (head : Option Nat) : Prop := ∀ number, head = some number → number < history.commits.length

theorem Grows.reach {head : Option Nat} (grows : Grows history next) (inside : Inside history head) :
    next.reach head = history.reach head := by
  cases head with
  | none => rfl
  | some number => exact grows.sweep (inside number rfl) _

theorem Grows.ahead {head base : Option Nat} (grows : Grows history next) (headInside : Inside history head)
    (baseInside : Inside history base) : next.ahead head base = history.ahead head base := by
  rw [History.ahead, History.ahead, grows.reach headInside, grows.reach baseInside]

theorem add_grows (history : History κ) (parents : List Nat) (files : Keyed κ) (message : String) :
    Grows history (history.add parents files message).2 :=
  ⟨_, rfl⟩

theorem get_of_add (history : History κ) (parents : List Nat) (files : Keyed κ) (message : String) :
    (history.add parents files message).2.get? history.commits.length =
      some ⟨parents.filter (· < history.commits.length), files, message⟩ :=
  List.getElem?_concat_length

theorem add_of_inside {head : Option Nat} (inside : Inside history head) (files : Keyed κ) (message : String) :
    (history.add head.toList files message).2.commits = history.commits ++ [⟨head.toList, files, message⟩] := by
  have kept : head.toList.filter (· < history.commits.length) = head.toList :=
    List.filter_eq_self.mpr fun parent listed => decide_eq_true (inside parent (Option.mem_toList.mp listed))
  exact congrArg (fun parents => history.commits ++ [⟨parents, files, message⟩]) kept

theorem parents_of_add {head : Option Nat} (inside : Inside history head) (files : Keyed κ) (message : String) :
    (history.add head.toList files message).2.parentsOf history.commits.length = head.toList := by
  rw [parentsOf, get?, add_of_inside inside, List.getElem?_concat_length]
  rfl

theorem fresh_of_inside {head : Option Nat} (inside : Inside history head) :
    history.commits.length ∉ history.reach head := by
  cases head with
  | none => exact List.not_mem_nil
  | some last =>
      intro member
      exact absurd (mem_reach.mp member).le (Nat.not_le_of_lt (inside last rfl))

-- A new commit reaches itself, and what the one that it was made from reaches.
theorem reach_of_add {head : Option Nat} (inside : Inside history head) (files : Keyed κ) (message : String) :
    ((history.add head.toList files message).2.reach (some history.commits.length)).Perm
      (history.commits.length :: history.reach head) := by
  have grows := add_grows history head.toList files message
  have parents := parents_of_add inside files message
  have once := List.nodup_cons.mpr ⟨fresh_of_inside inside, reach_nodup history head⟩
  refine (List.perm_ext_iff_of_nodup (reach_nodup _ _) once).mpr fun number => ?_
  rw [mem_reach, List.mem_cons, ← grows.reach inside]
  constructor
  · intro reaches
    cases reaches with
    | here _ => exact Or.inl rfl
    | above _ parent _ isParent reaches =>
        rw [parents] at isParent
        cases Option.mem_toList.mp isParent
        exact Or.inr (mem_reach.mpr reaches)
  · rintro (rfl | member)
    · exact .here _
    · cases head with
      | none => cases member
      | some last => exact .above _ last _ (by rw [parents]; exact List.mem_singleton_self last) (mem_reach.mp member)

-- A new commit is one more that is ahead.
theorem ahead_of_add {head base : Option Nat} (headInside : Inside history head) (baseInside : Inside history base)
    (files : Keyed κ) (message : String) :
    (history.add head.toList files message).2.ahead (some history.commits.length) base = history.ahead head base + 1 := by
  have missing : (!(history.reach base).contains history.commits.length) = true := by
    simpa using fresh_of_inside baseInside
  rw [History.ahead, (add_grows history _ files message).reach baseInside,
    ((reach_of_add headInside files message).filter _).length_eq, List.filter_cons, if_pos missing]
  rfl

end Bookmarks.History
