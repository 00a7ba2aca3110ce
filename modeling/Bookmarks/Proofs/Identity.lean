import Bookmarks.Identity
import Bookmarks.Batch.Projection
import Mathlib.Logic.Equiv.Basic

/-!
The ids that a source makes one after another, and the permutation of names that gives them to the nodes
of a batch, which go by their number while they have none.
-/
set_option autoImplicit false

namespace Bookmarks

-- Names that are kept for nodes without an id.
def IsPending (id : String) : Prop := "pending:".toList <+: id.toList

instance (id : String) : Decidable (IsPending id) :=
  inferInstanceAs (Decidable ("pending:".toList <+: id.toList))

theorem pending_id_pending (number : Nat) : IsPending (Projection.pendingId number) := by
  unfold IsPending Projection.pendingId
  rw [String.toList_append]
  exact List.prefix_append _ _

theorem pending_id_injective {a b : Nat} (same : Projection.pendingId a = Projection.pendingId b) : a = b := by
  have digits : Nat.toDigits 10 a = Nat.toDigits 10 b := by
    have texts := (String.append_right_inj "pending:").mp same
    rw [Nat.toString_eq_repr, Nat.toString_eq_repr] at texts
    simpa using congrArg String.toList texts
  simpa using congrArg (Nat.ofDigitChars 10 · 0) digits

namespace IdSource

-- The source after it has made so many ids at a time.
def after (source : IdSource) (now : Int) : Nat → IdSource
  | 0 => source
  | count + 1 => (source.after now count).advance now

-- The next ids that a source makes at a time, in their order.
def made (source : IdSource) (now : Int) (count : Nat) : List String :=
  (List.range count).map fun number => (source.after now (number + 1)).text

theorem made_get {source : IdSource} {now : Int} {count number : Nat} (inside : number < count) :
    (source.made now count)[number]? = some (source.after now (number + 1)).text := by
  simp [made, inside]

theorem digits_head (places n : Nat) :
    ∃ rest, Text.Hex.digits (places + 1) n = Nat.digitChar (n / Nat.pow 16 places % 16) :: rest := by
  induction places generalizing n with
  | zero => exact ⟨[], by simp [Text.Hex.digits, Nat.pow]⟩
  | succ places ih =>
      obtain ⟨rest, shape⟩ := ih (n / 16)
      refine ⟨rest ++ [Nat.digitChar (n % 16)], ?_⟩
      rw [Text.Hex.digits, shape, List.cons_append, Nat.div_div_eq_div_mul]
      congr 4
      exact Nat.mul_comm _ _

theorem digit_ne_p : ∀ n < 16, Nat.digitChar n ≠ 'p' := by
  decide

theorem text_not_pending (source : IdSource) : ¬ IsPending source.text := by
  intro pending
  obtain ⟨rest, shape⟩ := digits_head 11 source.latest
  unfold IsPending text at pending
  rw [shape, List.cons_append, String.toList_ofList, String.toList_ofList] at pending
  have first := (List.cons_prefix_cons.mp pending).1
  exact digit_ne_p _ (Nat.mod_lt _ (by decide)) first.symm

theorem made_not_pending {source : IdSource} {now : Int} {count : Nat} {id : String}
    (member : id ∈ source.made now count) : ¬ IsPending id := by
  obtain ⟨number, _, rfl⟩ := List.mem_map.mp member
  exact text_not_pending _

end IdSource

-- Exchanges the numbered names with ids, one after another.
def exchange : Nat → List String → Equiv.Perm String
  | _, [] => Equiv.refl String
  | number, id :: rest => (exchange (number + 1) rest).trans (Equiv.swap (Projection.pendingId number) id)

theorem exchange_other {number : Nat} {ids : List String} {name : String}
    (unnumbered : ∀ k, number ≤ k → name ≠ Projection.pendingId k) (absent : name ∉ ids) :
    exchange number ids name = name := by
  induction ids generalizing number with
  | nil => rfl
  | cons id rest ih =>
      rw [exchange, Equiv.trans_apply,
        ih (fun k le => unnumbered k (Nat.le_of_succ_le le)) (List.not_mem_of_not_mem_cons absent)]
      exact Equiv.swap_apply_of_ne_of_ne (unnumbered number (Nat.le_refl number))
        (List.ne_of_not_mem_cons absent)

theorem exchange_pending {ids : List String} {position : Nat} {id : String} (number : Nat)
    (nodup : ids.Nodup) (plain : ∀ id ∈ ids, ¬ IsPending id) (found : ids[position]? = some id) :
    exchange number ids (Projection.pendingId (number + position)) = id := by
  induction ids generalizing number position with
  | nil => simp at found
  | cons head rest ih =>
      obtain ⟨fresh, nodup⟩ := List.nodup_cons.mp nodup
      rw [exchange, Equiv.trans_apply]
      cases position with
      | zero =>
          have same : head = id := by simpa using found
          have unmoved : exchange (number + 1) rest (Projection.pendingId number) = Projection.pendingId number := by
            apply exchange_other
            · intro k above equal
              have := pending_id_injective equal
              omega
            · intro member
              exact plain _ (List.mem_cons_of_mem _ member) (pending_id_pending _)
          rw [show number + 0 = number from Nat.add_zero number, unmoved, Equiv.swap_apply_left, same]
      | succ position =>
          have later : rest[position]? = some id := by simpa using found
          have member : id ∈ rest := List.mem_of_getElem? later
          have shift : number + (position + 1) = number + 1 + position := by omega
          rw [shift, ih (number + 1) nodup (fun id member => plain id (List.mem_cons_of_mem _ member)) later]
          apply Equiv.swap_apply_of_ne_of_ne
          · intro same
            exact plain id (List.mem_cons_of_mem _ member) (same ▸ pending_id_pending number)
          · intro same
            exact fresh (same ▸ member)

theorem filter_map_names (f : Equiv.Perm String) (ids : List String) (id : String) :
    (ids.map f).filter (· != f id) = (ids.filter (· != id)).map f := by
  rw [List.filter_map]
  congr 1
  apply List.filter_congr
  intro other _
  have same : f other = f id ↔ other = id := f.injective.eq_iff
  rw [Function.comp_apply, Bool.eq_iff_iff, bne_iff_ne, bne_iff_ne, ne_eq, ne_eq, same]

theorem some_ne_map_iff (f : Equiv.Perm String) (id : String) (omitted : Option String) :
    some (f id) ≠ omitted.map f ↔ some id ≠ omitted := by
  rw [← Option.map_some, (Option.map_injective f.injective).ne_iff]

-- The naming that gives one name to another node.
def redirect (f : Equiv.Perm String) (name target : String) : Equiv.Perm String :=
  f.trans (Equiv.swap (f name) target)

theorem redirect_self (f : Equiv.Perm String) (name target : String) : redirect f name target name = target :=
  Equiv.swap_apply_left _ _

theorem redirect_other {f : Equiv.Perm String} {name target other : String} (different : other ≠ name)
    (elsewhere : f other ≠ target) : redirect f name target other = f other :=
  Equiv.swap_apply_of_ne_of_ne (fun same => different (f.injective same)) elsewhere

section

variable {f g : Equiv.Perm String} {left right : String → Bool} {id name target : String}

-- A naming that agrees with `f` on the left names does not meet the right ones from anywhere else.
theorem renamed_outside (same : ∀ id, right (f id) = left id) (agree : ∀ id, left id = true → g id = f id)
    (outside : ¬ left id = true) : ¬ right (g id) = true := by
  intro there
  rw [← f.apply_symm_apply (g id), same] at there
  have back : g (f.symm (g id)) = g id := by rw [agree _ there, f.apply_symm_apply]
  rw [g.injective back] at there
  exact outside there

theorem redirect_agrees (same : ∀ id, right (f id) = left id) (unused : ¬ left name = true)
    (unusedRight : ¬ right target = true) : ∀ id, left id = true → redirect f name target id = f id := by
  intro id there
  apply redirect_other
  · rintro rfl
    exact unused there
  · intro taken
    rw [← same, taken] at there
    exact unusedRight there

end

end Bookmarks
