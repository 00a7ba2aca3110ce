import Bookmarks.Proofs.Batch.Projection
import Bookmarks.Proofs.Tree.Changes
import Mathlib.Data.Finset.Card

/-!
The search for an ancestor. It finds what is above its start, and takes a way that never ends for one that meets
everything (`is_descendant_iff_endless`): a way with more steps than there are nodes has come back to one of them.
Where no node is above itself every way ends, and the search finds exactly what is above its start
(`is_descendant_iff`).
-/
set_option autoImplicit false

namespace Bookmarks.Projection

open Relation (ReflTransGen TransGen)

variable {p : Projection} {id parent ancestor candidate : String}

def Acyclic (p : Projection) : Prop := ∀ id, ¬ TransGen p.Under id id

theorem under_unique {a b c : String} (left : p.Under a b) (right : p.Under a c) : b = c :=
  Option.some.inj (left.symm.trans right)

theorem contains_of_under (step : p.Under id parent) : p.nodes.contains id = true := by
  obtain ⟨place, found, _⟩ := Option.bind_eq_some_iff.mp step
  exact Keyed.contains_iff.mpr ⟨place, found⟩

-- The node that is so many steps above another one.
def above (p : Projection) : Nat → String → Option String
  | 0, id => some id
  | steps + 1, id => (p.parentOf id).bind (p.above steps)

def Endless (p : Projection) (id : String) : Prop := ∀ steps, p.above steps id ≠ none

theorem above_add (p : Projection) (first second : Nat) (id : String) :
    p.above (first + second) id = (p.above first id).bind (p.above second) := by
  induction first generalizing id with
  | zero => rw [Nat.zero_add]; rfl
  | succ first ih =>
      rw [Nat.succ_add]
      simp only [above]
      rw [Option.bind_assoc]
      exact congrArg _ (funext ih)

theorem above_before {fewer steps : Nat} (le : fewer ≤ steps) (there : p.above steps id ≠ none) :
    p.above fewer id ≠ none := by
  obtain ⟨more, rfl⟩ := Nat.exists_eq_add_of_le le
  intro gone
  rw [above_add, gone] at there
  exact there rfl

theorem contains_before {steps : Nat} (there : p.above (steps + 1) id ≠ none) :
    ∃ node, p.above steps id = some node ∧ p.nodes.contains node = true := by
  rw [above_add] at there
  obtain ⟨last, reached⟩ := Option.ne_none_iff_exists'.mp there
  obtain ⟨node, here, next⟩ := Option.bind_eq_some_iff.mp reached
  obtain ⟨upper, step, _⟩ := Option.bind_eq_some_iff.mp next
  exact ⟨node, here, contains_of_under step⟩

theorem reaches_iff : ReflTransGen p.Under id ancestor ↔ ∃ steps, p.above steps id = some ancestor := by
  constructor
  · intro path
    induction path using ReflTransGen.head_induction_on with
    | refl => exact ⟨0, rfl⟩
    | @head lower upper step _ ih =>
        obtain ⟨steps, found⟩ := ih
        exact ⟨steps + 1, Option.bind_eq_some_iff.mpr ⟨upper, step, found⟩⟩
  · rintro ⟨steps, found⟩
    induction steps generalizing id with
    | zero =>
        cases found
        exact .refl
    | succ steps ih =>
        obtain ⟨upper, step, rest⟩ := Option.bind_eq_some_iff.mp found
        exact .head step (ih rest)

theorem ancestor_iff : TransGen p.Under id ancestor ↔ ∃ steps, p.above (steps + 1) id = some ancestor := by
  rw [TransGen.head'_iff]
  constructor
  · rintro ⟨upper, step, path⟩
    obtain ⟨steps, found⟩ := reaches_iff.mp path
    exact ⟨steps, Option.bind_eq_some_iff.mpr ⟨upper, step, found⟩⟩
  · rintro ⟨steps, found⟩
    obtain ⟨upper, step, rest⟩ := Option.bind_eq_some_iff.mp found
    exact ⟨upper, step, reaches_iff.mpr ⟨steps, rest⟩⟩

-- From a node that the way comes back to it goes on as it went on before.
theorem endless_of_return {first second : Nat} (later : first < second)
    (same : p.above first id = p.above second id) (there : p.above second id ≠ none) : p.Endless id := by
  intro steps
  induction steps using Nat.strong_induction_on with
  | h steps ih =>
      by_cases short : steps ≤ second
      · exact above_before short there
      · obtain ⟨rest, rfl⟩ := Nat.exists_eq_add_of_le (Nat.le_of_not_le short)
        rw [above_add, ← same, ← above_add]
        exact ih (first + rest) (by omega)

theorem endless_of_long (long : p.above (p.nodes.size + 1) id ≠ none) : p.Endless id := by
  have inside : ∀ steps ∈ Finset.range (p.nodes.size + 1), (p.above steps id).getD "" ∈ p.nodes.keys.toFinset := by
    intro steps member
    obtain ⟨node, here, there⟩ := contains_before (above_before (Finset.mem_range.mp member) long)
    rw [here, Option.getD_some, List.mem_toFinset, Keyed.mem_keys]
    exact Keyed.contains_iff.mp there
  have fewer : p.nodes.keys.toFinset.card < (Finset.range (p.nodes.size + 1)).card := by
    have bounded := List.toFinset_card_le p.nodes.keys
    rw [Keyed.keys, List.length_map] at bounded
    rw [Finset.card_range]
    exact Nat.lt_succ_of_le bounded
  obtain ⟨first, firstIn, second, secondIn, different, same⟩ :=
    Finset.exists_ne_map_eq_of_card_lt_of_maps_to fewer inside
  have reached : ∀ steps ∈ Finset.range (p.nodes.size + 1), p.above steps id ≠ none := fun steps member =>
    above_before (Nat.le_of_lt (Finset.mem_range.mp member)) long
  obtain ⟨one, here⟩ := Option.ne_none_iff_exists'.mp (reached first firstIn)
  obtain ⟨other, there⟩ := Option.ne_none_iff_exists'.mp (reached second secondIn)
  rw [here, there, Option.getD_some, Option.getD_some] at same
  have returns : p.above first id = p.above second id := by rw [here, there, same]
  rcases Nat.lt_or_gt_of_ne different with later | earlier
  · exact endless_of_return later returns (reached second secondIn)
  · exact endless_of_return earlier returns.symm (reached first firstIn)

-- The search looks at its start and at what is so many steps above it, as far as there is anything.
theorem meets_iff {steps : Nat} {start : String} :
    p.meets ancestor steps (some start) = true ↔
      (∃ taken ≤ steps, p.above taken start = some ancestor) ∨ p.above steps start ≠ none := by
  induction steps generalizing start with
  | zero => by_cases same : start = ancestor <;> simp [meets, above, same]
  | succ steps ih =>
      by_cases same : start = ancestor
      · subst same
        simp only [meets, if_true, true_iff]
        exact Or.inl ⟨0, Nat.zero_le _, rfl⟩
      · have onward : (∃ taken ≤ steps + 1, p.above taken start = some ancestor) ↔
            ∃ taken ≤ steps, p.above (taken + 1) start = some ancestor := by
          constructor
          · rintro ⟨taken, within, found⟩
            cases taken with
            | zero => exact absurd (Option.some.inj found) same
            | succ taken => exact ⟨taken, Nat.le_of_succ_le_succ within, found⟩
          · rintro ⟨taken, within, found⟩
            exact ⟨taken + 1, Nat.succ_le_succ within, found⟩
        rw [onward]
        simp only [meets, same, if_false, above]
        cases p.parentOf start with
        | none => simp [meets]
        | some upper => exact ih

theorem is_descendant_iff_endless :
    p.isDescendant candidate ancestor = true ↔ TransGen p.Under candidate ancestor ∨ p.Endless candidate := by
  unfold isDescendant
  rw [ancestor_iff]
  cases start : p.parentOf candidate with
  | none =>
      have top : ∀ steps, p.above (steps + 1) candidate = none := fun steps => by rw [above, start, Option.bind_none]
      simp only [meets, Bool.false_eq_true, false_iff]
      rintro (⟨steps, found⟩ | endless)
      · rw [top] at found
        cases found
      · exact endless 1 (top 0)
  | some upper =>
      have next : ∀ steps, p.above steps upper = p.above (steps + 1) candidate := fun steps => by
        rw [above, start, Option.bind_some]
      rw [meets_iff]
      simp only [next]
      constructor
      · rintro (⟨steps, _, found⟩ | long)
        · exact Or.inl ⟨steps, found⟩
        · exact Or.inr (endless_of_long long)
      · rintro (⟨steps, found⟩ | endless)
        · by_cases within : steps ≤ p.nodes.size
          · exact Or.inl ⟨steps, within, found⟩
          · have there : p.above (steps + 1) candidate ≠ none := Option.ne_none_iff_exists'.mpr ⟨_, found⟩
            exact Or.inr (above_before (by omega) there)
        · exact Or.inr (endless _)

section

open Classical

-- The nodes that the way upwards from a node leads through.
noncomputable def chain (p : Projection) (id : String) : Finset String :=
  p.nodes.keys.toFinset.filter fun above => ReflTransGen p.Under id above

theorem mem_chain :
    parent ∈ p.chain id ↔ p.nodes.contains parent = true ∧ ReflTransGen p.Under id parent := by
  rw [chain, Finset.mem_filter, List.mem_toFinset, Keyed.mem_keys, Keyed.contains_iff]

theorem chain_shrinks (acyclic : p.Acyclic) (step : p.Under id parent) :
    (p.chain parent).card < (p.chain id).card := by
  apply Finset.card_lt_card
  refine ⟨fun above member => ?_, fun subset => ?_⟩
  · obtain ⟨there, path⟩ := mem_chain.mp member
    exact mem_chain.mpr ⟨there, .head step path⟩
  · have self : id ∈ p.chain id := mem_chain.mpr ⟨contains_of_under step, .refl⟩
    obtain ⟨_, path⟩ := mem_chain.mp (subset self)
    exact acyclic id (TransGen.head' step path)

theorem chain_bounded (p : Projection) (id : String) : (p.chain id).card ≤ p.nodes.size := by
  refine (Finset.card_filter_le _ _).trans ((List.toFinset_card_le _).trans ?_)
  simp [Keyed.keys, Keyed.size]

-- Every step upwards makes what is still above smaller.
theorem above_ends (acyclic : p.Acyclic) {steps : Nat} (enough : (p.chain id).card < steps) :
    p.above steps id = none := by
  induction steps generalizing id with
  | zero => exact absurd enough (Nat.not_lt_zero _)
  | succ steps ih =>
      rw [above]
      cases step : p.parentOf id with
      | none => rfl
      | some upper => exact ih (Nat.lt_of_lt_of_le (chain_shrinks acyclic step) (Nat.le_of_lt_succ enough))

end

theorem above_size_ends (acyclic : p.Acyclic) (id : String) : p.above (p.nodes.size + 1) id = none :=
  above_ends acyclic (Nat.lt_succ_of_le (chain_bounded p id))

theorem is_descendant_iff (acyclic : p.Acyclic) :
    p.isDescendant candidate ancestor = true ↔ TransGen p.Under candidate ancestor := by
  rw [is_descendant_iff_endless, or_iff_left]
  exact fun endless => endless _ (above_size_ends acyclic candidate)

end Bookmarks.Projection
