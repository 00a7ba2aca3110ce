import Bookmarks.Proofs.Outline.Steps

/-!
The checks of an operation and its rules. A check fails with what the first broken rule reports, and where
none is broken it succeeds (`ruled_apply`).
-/
set_option autoImplicit false

namespace Bookmarks

open Relation (reflTransGen_iff_eq_or_transGen)

-- The outcome of a check is what the rules say.
def RuledBy {α : Type} (outcome : Except Violation α) (rules : List Rule) : Prop :=
  match rules.find? Rule.broken with
  | none => ∃ value, outcome = .ok value
  | some rule => outcome = .error rule.violation

section

variable {α β : Type} {outcome : Except Violation α} {next : α → Except Violation β} {rules others : List Rule}

theorem ruled_nil (value : α) : RuledBy (.ok value : Except Violation α) [] := ⟨value, rfl⟩

theorem ruled_one {holds : Bool} {violation : Violation} (passes : holds = true → ∃ value, outcome = .ok value)
    (fails : holds = false → outcome = .error violation) : RuledBy outcome [⟨holds, violation⟩] := by
  cases holds with
  | true => exact passes rfl
  | false => exact fails rfl

theorem RuledBy.bind (first : RuledBy outcome rules) (second : ∀ value, outcome = .ok value → RuledBy
    (next value) others) :
    RuledBy (outcome >>= next) (rules ++ others) := by
  unfold RuledBy at first second ⊢
  rw [List.find?_append]
  cases broken : rules.find? Rule.broken with
  | none =>
      rw [broken] at first
      obtain ⟨value, succeeds⟩ := first
      rw [bind_of_ok succeeds, Option.none_or]
      exact second value succeeds
  | some rule =>
      rw [broken] at first
      rw [bind_of_error first, Option.some_or]

theorem RuledBy.done (ruled : RuledBy outcome rules) (result : α → β) :
    RuledBy (outcome >>= fun value => .ok (result value)) rules := by
  have whole : RuledBy (outcome >>= fun value => .ok (result value)) (rules ++ []) :=
    ruled.bind fun value _ => ruled_nil (result value)
  rwa [List.append_nil] at whole

theorem RuledBy.guard {condition : Prop} [Decidable condition] {rule : Rule}
    (excluded : rule.holds = true ↔ ¬ condition) (rest : RuledBy outcome rules) :
    RuledBy (if condition then .error rule.violation else outcome) (rule :: rules) := by
  by_cases failing : condition
  · have broken : rule.holds = false := Bool.eq_false_iff.mpr fun holds => excluded.mp holds failing
    simp [RuledBy, Rule.broken, failing, broken]
  · have holds : rule.holds = true := excluded.mpr failing
    unfold RuledBy at rest ⊢
    simpa [Rule.broken, failing, holds] using rest

theorem RuledBy.ok_iff (ruled : RuledBy outcome rules) :
    (∃ value, outcome = .ok value) ↔ ∀ rule ∈ rules, rule.holds = true := by
  have none_iff : rules.find? Rule.broken = none ↔ ∀ rule ∈ rules, rule.holds = true := by
    simp [List.find?_eq_none, Rule.broken]
  unfold RuledBy at ruled
  rw [← none_iff]
  cases broken : rules.find? Rule.broken with
  | none =>
      rw [broken] at ruled
      exact ⟨fun _ => rfl, fun _ => ruled⟩
  | some rule =>
      rw [broken] at ruled
      simp [ruled]

theorem RuledBy.error_iff (ruled : RuledBy outcome rules) {violation : Violation} :
    outcome = .error violation ↔ ∃ rule, rules.find? Rule.broken = some rule ∧ rule.violation = violation := by
  unfold RuledBy at ruled
  cases broken : rules.find? Rule.broken with
  | none =>
      rw [broken] at ruled
      obtain ⟨value, succeeds⟩ := ruled
      simp [succeeds]
  | some rule =>
      rw [broken] at ruled
      simp [ruled]

end

namespace Projection

variable {p : Projection} {id parent : String} {index : Option Int} {outline : Outline} {operation : Operation}

-- What stands in the projection under an id is found in the drawing.
theorem kind_of_found (arranged : p.Arranged) (drawn : p.layout.Draws rootId outline) (plain : ¬ IsPending id) :
    (outline.find? id).map Outline.kind = (p.nodes.get? id).map Place.kind := by
  cases search : outline.find? id with
  | some found => exact (drawn.of_found search).1.kind_eq.symm
  | none =>
      cases stored : p.nodes.get? id with
      | none => rfl
      | some place =>
          obtain ⟨found, there, _⟩ := find_of_contains arranged drawn plain (Keyed.contains_iff.mpr ⟨place, stored⟩)
          rw [search] at there
          cases there

theorem found_iff (arranged : p.Arranged) (drawn : p.layout.Draws rootId outline) (plain : ¬ IsPending id) :
    (outline.find? id).isSome = (p.nodes.get? id).isSome := by
  rw [← Option.isSome_map, kind_of_found arranged drawn plain, Option.isSome_map]

theorem children_found (arranged : p.Arranged) (drawn : p.layout.Draws rootId outline) (plain : ¬ IsPending id) :
    p.layout.DrawsAll (p.childrenOf id) (outline.childrenOf id) := by
  unfold Outline.childrenOf
  cases search : outline.find? id with
  | some found => exact (drawn.of_found search).1.all
  | none =>
      have absent : p.nodes.get? id = none := by
        simpa [search] using (found_iff arranged drawn plain).symm
      rw [arranged.childless absent]
      exact .nil

theorem sibling_count (arranged : p.Arranged) (drawn : p.layout.Draws rootId outline) (plain : ¬ IsPending parent) :
    p.siblingCount parent none = (outline.childrenOf parent).length := by
  rw [(children_found arranged drawn plain).length_eq, siblingCount]
  simp

theorem sibling_count_without (arranged : p.Arranged) (drawn : p.layout.Draws rootId outline)
    (plain : ¬ IsPending parent) (plainId : ¬ IsPending id) :
    p.siblingCount parent (some id) =
      ((outline.childrenOf parent).filter fun child => child.name ≠ some id).length := by
  rw [((children_found arranged drawn plain).without (plain_shown plainId)).length_eq, siblingCount]
  simp [bne, Option.some_beq_some]

theorem kind_any (arranged : p.Arranged) (drawn : p.layout.Draws rootId outline) (plain : ¬ IsPending id)
    (kind : Kind) :
    ((outline.find? id).any fun node => node.kind = kind) = (p.nodes.get? id).any fun place => place.kind = kind := by
  have kinds := congrArg (Option.any fun other => other = kind) (kind_of_found arranged drawn plain)
  rwa [Option.any_map, Option.any_map] at kinds

theorem ruled_parent (arranged : p.Arranged) (drawn : p.layout.Draws rootId outline) (plain : ¬ IsPending parent) :
    RuledBy (p.checkParent parent) [outline.parentRule parent] := by
  rw [Outline.parentRule, kind_any arranged drawn plain]
  apply ruled_one
  · intro isFolder
    obtain ⟨place, found, kind⟩ := (Option.any_eq_true _ _).mp isFolder
    refine ⟨(), check_parent_ok.mpr ⟨place.parent, ?_⟩⟩
    rw [found, ← of_decide_eq_true kind]
  · intro otherwise
    unfold checkParent
    split
    · rename_i above found
      simp [found] at otherwise
    · rfl

theorem ruled_index {siblings : List Outline} {moving : Option String}
    (count : p.siblingCount parent moving = siblings.length) (index : Option Int) :
    RuledBy (p.checkIndex parent index moving) (Outline.indexRules siblings index) := by
  cases index with
  | none => exact ruled_nil ()
  | some index =>
      rw [Outline.indexRules, ← count, checkIndex]
      apply ruled_one
      · intro inside
        have bounds := of_decide_eq_true inside
        exact ⟨(), if_neg (by omega)⟩
      · intro outside
        have bounds := of_decide_eq_false outside
        exact if_pos (by omega)

theorem ruled_mutable (arranged : p.Arranged) (drawn : p.layout.Draws rootId outline) (plain : ¬ IsPending id) :
    RuledBy (p.checkMutable id) (outline.targetRules id) := by
  rw [Outline.targetRules, found_iff arranged drawn plain]
  unfold checkMutable
  cases p.nodes.get? id with
  | none => rfl
  | some place =>
      by_cases isRoot : id = rootId
      · simp [RuledBy, Rule.broken, isRoot]
      · simp [RuledBy, Rule.broken, isRoot]

theorem ruled_url (url : String) : RuledBy (checkUrl url) [Outline.urlRule url] := by
  apply ruled_one
  · intro address
    exact ⟨(), check_url_ok.mpr address⟩
  · intro otherwise
    simp [checkUrl, otherwise]

theorem ruled_urls (tabs : List Tab) : RuledBy (checkUrls tabs) (tabs.map fun tab => Outline.urlRule tab.url) := by
  unfold checkUrls
  induction tabs with
  | nil => exact ruled_nil ()
  | cons tab rest ih => exact (ruled_url tab.url).bind fun _ _ => ih

-- The search upwards finds the node exactly if the search in the part that is moved finds the new parent.
theorem cycle_iff (arranged : p.Arranged) (drawn : p.layout.Draws rootId outline) (plain : ¬ IsPending id)
    (plainParent : ¬ IsPending parent) (present : p.nodes.contains id = true) :
    (outline.cycleRule id parent).holds = true ↔ ¬ (parent = id ∨ p.isDescendant parent id = true) := by
  obtain ⟨moved, search, whole⟩ := find_of_contains arranged drawn plain present
  have inside := whole.find_iff (plain_shown plainParent)
  rw [arranged.below_eq, reflTransGen_iff_eq_or_transGen, ← is_descendant_iff arranged.acyclic,
    eq_comm (a := id)] at inside
  rw [Outline.cycleRule, search, ← inside]
  simp

theorem ruled_move (arranged : p.Arranged) (drawn : p.layout.Draws rootId outline) (plain : ¬ IsPending id)
    (plainParent : ¬ IsPending parent) (index : Option Int) :
    RuledBy (p.apply (.moveNode id parent index)) (outline.rules (.moveNode id parent index)) := by
  refine (ruled_mutable arranged drawn plain).bind fun place mutable => ?_
  have present : p.nodes.contains id = true := Keyed.contains_iff.mpr ⟨place, (check_mutable_ok.mp mutable).1⟩
  have cycle := cycle_iff arranged drawn plain plainParent present
  have count := sibling_count_without arranged drawn plainParent plain
  have placed := (ruled_parent arranged drawn plainParent).bind fun _ _ =>
    (ruled_index count index).done fun _ => p.relink id parent index
  exact RuledBy.guard cycle placed

theorem ruled_update (arranged : p.Arranged) (drawn : p.layout.Draws rootId outline) (plain : ¬ IsPending id)
    (title url : Option String) :
    RuledBy (p.apply (.updateBookmark id title url)) (outline.rules (.updateBookmark id title url)) := by
  refine (ruled_mutable arranged drawn plain).bind fun place mutable => ?_
  have found := (check_mutable_ok.mp mutable).1
  have bookmark : (outline.bookmarkRule id).holds = true ↔ ¬ place.kind ≠ .bookmark := by
    rw [Outline.bookmarkRule, kind_any arranged drawn plain, found]
    simp
  cases url with
  | none => exact RuledBy.guard bookmark (ruled_nil p)
  | some url => exact RuledBy.guard bookmark ((ruled_url url).done fun _ => p)

theorem ruled_apply (arranged : p.Arranged) (drawn : p.layout.Draws rootId outline)
    (plain : ∀ id ∈ operation.names, ¬ IsPending id) : RuledBy (p.apply operation) (outline.rules operation) := by
  cases operation with
  | addFolder parent title index =>
      have count := sibling_count arranged drawn (plain parent (by simp [Operation.names]))
      exact (ruled_parent arranged drawn (plain parent (by simp [Operation.names]))).bind fun _ _ =>
        (ruled_index count index).done _
  | addBookmark parent title url index =>
      have count := sibling_count arranged drawn (plain parent (by simp [Operation.names]))
      exact (ruled_parent arranged drawn (plain parent (by simp [Operation.names]))).bind fun _ _ =>
        (ruled_index count index).bind fun _ _ => (ruled_url url).done _
  | renameNode id title => exact (ruled_mutable arranged drawn (plain id (by simp [Operation.names]))).done _
  | moveNode id parent index =>
      exact ruled_move arranged drawn (plain id (by simp [Operation.names]))
        (plain parent (by simp [Operation.names]))
        index
  | deleteNode id recursive => exact (ruled_mutable arranged drawn (plain id (by simp [Operation.names]))).done _
  | updateBookmark id title url => exact ruled_update arranged drawn (plain id (by simp [Operation.names])) title url
  | saveSession parent title tabs index =>
      have count := sibling_count arranged drawn (plain parent (by simp [Operation.names]))
      exact (ruled_parent arranged drawn (plain parent (by simp [Operation.names]))).bind fun _ _ =>
        (ruled_index count index).bind fun _ _ => (ruled_urls tabs).done _

end Projection

end Bookmarks
