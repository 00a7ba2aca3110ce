import Mathlib.Logic.Equiv.Basic
import Mathlib.Logic.Relation

/-!
Ways that lead upwards: what a search that visits one place after another still has to find after a visit,
which ways are left when a place is moved or places are taken away, and that names do not matter to them.
-/
set_option autoImplicit false

namespace Bookmarks

open Relation (ReflTransGen TransGen)

-- `up` leads from below to above, `later` is what is left of it after the visit of `visited`. What is
-- below one of the starts is the visited place itself or is below one of the places still to be visited,
-- and it gets there without the visited place.
theorem below_start_iff {α : Type} {up later : α → α → Prop} (start pending : α → Prop) {visited : α}
    (started : start visited) (narrower : ∀ a b, later a b → up a b)
    (kept : ∀ a b, up a b → a ≠ visited → b ≠ visited → later a b)
    (known : ∀ a, pending a → start a ∨ up a visited)
    (others : ∀ a, start a → a ≠ visited → pending a)
    (found : ∀ a, up a visited → a ≠ visited → pending a) (place : α) :
    (∃ first, start first ∧ ReflTransGen up place first) ↔
      place = visited ∨ ∃ next, pending next ∧ ReflTransGen later place next := by
  constructor
  · rintro ⟨first, isStart, path⟩
    induction path using ReflTransGen.head_induction_on with
    | refl =>
        by_cases same : first = visited
        · exact Or.inl same
        · exact Or.inr ⟨first, others first isStart same, .refl⟩
    | @head lower upper step _ ih =>
        by_cases same : lower = visited
        · exact Or.inl same
        · by_cases direct : upper = visited
          · subst direct
            exact Or.inr ⟨lower, found lower step same, .refl⟩
          · obtain ⟨next, isPending, rest⟩ := ih.resolve_left direct
            exact Or.inr ⟨next, isPending, .head (kept lower upper step same direct) rest⟩
  · rintro (rfl | ⟨next, isPending, path⟩)
    · exact ⟨place, started, .refl⟩
    · have before : ReflTransGen up place next := ReflTransGen.mono narrower _ _ path
      rcases known next isPending with isStart | step
      · exact ⟨next, isStart, before⟩
      · exact ⟨visited, started, before.tail step⟩

section

variable {α : Type} {up later : α → α → Prop}

-- Where every place has one way up at most, a place from which the top is reached is not above itself.
theorem acyclic_of_reaches (only : ∀ a b c, up a b → up a c → b = c) {top : α} (bare : ∀ a, ¬ up top a)
    {place : α} (path : ReflTransGen up place top) : ¬ TransGen up place place := by
  induction path using ReflTransGen.head_induction_on with
  | refl =>
      intro cycle
      obtain ⟨upper, step, _⟩ := TransGen.head'_iff.mp cycle
      exact bare upper step
  | @head lower upper step _ ih =>
      intro cycle
      obtain ⟨other, again, rest⟩ := TransGen.head'_iff.mp cycle
      rw [only lower other upper again step] at rest
      exact ih (TransGen.tail' rest step)

theorem reaches_apart {moved start goal : α} (kept : ∀ a b, up a b → a ≠ moved → later a b)
    (apart : ¬ ReflTransGen up start moved) (path : ReflTransGen up start goal) : ReflTransGen later start goal := by
  induction path using ReflTransGen.head_induction_on with
  | refl => exact .refl
  | @head lower upper step _ ih =>
      have spared : lower ≠ moved := fun same => apart (same ▸ .refl)
      exact .head (kept lower upper step spared) (ih fun path => apart (.head step path))

-- A way that meets the moved place goes on from there by its new way up.
theorem reaches_moved {moved target goal other : α} (placed : later moved target)
    (kept : ∀ a b, up a b → a ≠ moved → later a b) (apart : ¬ ReflTransGen up target moved)
    (above : ReflTransGen up target goal) (old : other = moved ∨ ReflTransGen up other goal) :
    ReflTransGen later other goal := by
  have arrives : ReflTransGen later moved goal := .head placed (reaches_apart kept apart above)
  rcases old with rfl | path
  · exact arrives
  · induction path using ReflTransGen.head_induction_on with
    | refl => exact .refl
    | @head lower upper step _ ih =>
        by_cases same : lower = moved
        · exact same ▸ arrives
        · exact .head (kept lower upper step same) ih

-- What is above a place that stays does not go either, if all below it would go with it.
theorem reaches_spared (gone : α → Prop) {place goal : α} (closed : ∀ a b, up a b → gone b → gone a)
    (kept : ∀ a b, up a b → ¬ gone a → later a b) (spared : ¬ gone place)
    (path : ReflTransGen up place goal) : ReflTransGen later place goal := by
  induction path using ReflTransGen.head_induction_on with
  | refl => exact .refl
  | @head lower upper step _ ih =>
      exact .head (kept lower upper step spared) (ih fun lost => spared (closed lower upper step lost))

-- The same ways under other names.
theorem reaches_renamed (f : Equiv.Perm α) (same : ∀ a b, later (f a) (f b) ↔ up a b) {start goal : α} :
    ReflTransGen later (f start) (f goal) ↔ ReflTransGen up start goal := by
  constructor
  · intro path
    have back : ∀ a b, later a b → up (f.symm a) (f.symm b) := by
      intro a b step
      rw [← f.apply_symm_apply a, ← f.apply_symm_apply b] at step
      exact (same _ _).mp step
    have lifted : ReflTransGen up (f.symm (f start)) (f.symm (f goal)) := ReflTransGen.lift f.symm back _ _ path
    rwa [f.symm_apply_apply, f.symm_apply_apply] at lifted
  · intro path
    exact ReflTransGen.lift f (fun a b step => (same a b).mpr step) _ _ path

theorem above_renamed (f : Equiv.Perm α) (same : ∀ a b, later (f a) (f b) ↔ up a b) {start goal : α} :
    TransGen later (f start) (f goal) ↔ TransGen up start goal := by
  rw [TransGen.head'_iff, TransGen.head'_iff]
  constructor
  · rintro ⟨upper, step, path⟩
    rw [← f.apply_symm_apply upper] at step path
    exact ⟨f.symm upper, (same _ _).mp step, (reaches_renamed f same).mp path⟩
  · rintro ⟨upper, step, path⟩
    exact ⟨f upper, (same _ _).mpr step, (reaches_renamed f same).mpr path⟩

end

end Bookmarks
