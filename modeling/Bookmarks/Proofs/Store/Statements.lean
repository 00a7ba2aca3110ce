import Bookmarks.Proofs.Identity
import Bookmarks.Proofs.Rows.Removal
import Bookmarks.Proofs.Store.Operations

/-!
What a batch does to the rows, statement by statement. A row with a parent is added, moved, or removed with all
that is below it, and other changes leave the kind of a row and its parent alone (`apply_all_steps`). What holds
of the rows after each of these holds after any batch.
-/
set_option autoImplicit false

namespace Bookmarks

open Relation (ReflTransGen)

namespace Rows

variable {ω : Type} {rows after : Rows ω} {id : String}

inductive Step (rows : Rows ω) : Rows ω → Prop
  | add (source : IdSource) (kind : Kind) (row : Row ω) (isKind : row.kind = kind.name) (below : row.parentId.isSome = true) :
      Step rows (rows.insert source.text row)
  | move (id : String) (old row : Row ω) (found : rows.get? id = some old) (child : old.parentId.isSome = true)
      (kind : row.kind = old.kind) (below : row.parentId.isSome = true) : Step rows (rows.insert id row)
  | change (id : String) (change : Row ω → Row ω) (kind : ∀ old, (change old).kind = old.kind)
      (parentId : ∀ old, (change old).parentId = old.parentId) : Step rows (rows.modify id change)
  | remove (id : String) (child : rows.isChild id = true) : Step rows (rows.removeAll [id])

abbrev Steps : Rows ω → Rows ω → Prop := ReflTransGen Step

theorem renumber_steps (rows : Rows ω) (numbered : List (String × ω)) : Steps rows (rows.renumber numbered) := by
  unfold renumber
  induction numbered generalizing rows with
  | nil => exact .refl
  | cons entry rest ih =>
      have step : Step rows (rows.modify entry.1 fun row => { row with ord := entry.2 }) :=
        .change entry.1 _ (fun _ => rfl) (fun _ => rfl)
      exact .head step (ih _)

theorem update_steps {isThere : Bool} {operation : Operation} {change : Row ω → Row ω}
    (done : rows.update isThere operation id change = .ok after) (kind : ∀ old, (change old).kind = old.kind)
    (parentId : ∀ old, (change old).parentId = old.parentId) : Steps rows after := by
  unfold update at done
  split at done
  · cases done
    exact .single (.change id change kind parentId)
  · cases done

variable [SiblingOrd ω]

theorem put_stored {row : Row ω} (done : rows.put id row = .ok after) :
    ∃ ord, after = rows.insert id { row with ord } := by
  unfold put at done
  split at done
  · cases done
  · simp only at done
    split at done
    · cases done
      exact ⟨_, rfl⟩
    · cases done

theorem allocate_steps {parent : String} {index : Option Int} {moving : Option String} {ord : ω}
    (done : rows.allocate parent index moving = .ok (ord, after)) : Steps rows after := by
  unfold allocate at done
  simp only at done
  split at done
  · cases done
    exact .refl
  · split at done
    · cases done
      exact renumber_steps rows _
    · cases done

end Rows

namespace Transaction

open Rows (Steps)

variable {ω : Type} [SiblingOrd ω] {t next : Transaction ω} {now : Int} {id : String}

theorem insert_new_steps {parent title : String} {kind : Kind} {url : Option String} {ord : ω}
    (done : t.insertNew now parent kind title url ord = .ok (id, next)) : Steps t.rows next.rows := by
  obtain ⟨rows, put, result⟩ := bind_eq_ok.mp done
  have same : Transaction.mk rows (t.ids.advance now) = next := congrArg Prod.snd (Except.ok.inj result)
  obtain ⟨stored, rfl⟩ := Rows.put_stored put
  rw [← same]
  exact .single (.add _ kind _ rfl rfl)

theorem add_steps {parent title : String} {kind : Kind} {url : Option String} {index : Option Int}
    (done : t.add now parent kind title url index = .ok (id, next)) : Steps t.rows next.rows := by
  obtain ⟨⟨ord, rows⟩, allocated, inserted⟩ := bind_eq_ok.mp done
  exact (Rows.allocate_steps allocated).trans (insert_new_steps inserted)

theorem add_tabs_steps {folder : String} {number : Nat} {tabs : List Tab}
    (done : t.addTabs now folder number tabs = .ok next) : Steps t.rows next.rows := by
  induction tabs generalizing t number with
  | nil =>
      cases done
      exact .refl
  | cons tab rest ih =>
      obtain ⟨⟨added, between⟩, inserted, others⟩ := bind_eq_ok.mp done
      exact (insert_new_steps inserted).trans (ih others)

theorem move_steps {rows after : Rows ω} {operation : Operation} {parent : String} {index : Option Int}
    (done : move rows now operation id parent index = .ok after) : Steps rows after := by
  obtain ⟨⟨ord, between⟩, allocated, rest⟩ := bind_eq_ok.mp done
  refine (Rows.allocate_steps allocated).trans ?_
  simp only at rest
  split at rest
  · rename_i row stored
    split at rest
    · rename_i child
      obtain ⟨ord, rfl⟩ := Rows.put_stored rest
      exact .single (.move id row _ stored child rfl rfl)
    · cases rest
  · cases rest

theorem apply_steps {operation : Operation} (done : t.apply now operation = .ok next) : Steps t.rows next.rows := by
  cases operation with
  | addFolder parent title index =>
      obtain ⟨⟨added, between⟩, inserted, result⟩ := bind_eq_ok.mp done
      cases result
      exact add_steps inserted
  | addBookmark parent title url index =>
      obtain ⟨⟨added, between⟩, inserted, result⟩ := bind_eq_ok.mp done
      cases result
      exact add_steps inserted
  | renameNode node title =>
      obtain ⟨rows, updated, result⟩ := bind_eq_ok.mp done
      cases result
      exact Rows.update_steps updated (fun _ => rfl) (fun _ => rfl)
  | moveNode node parent index =>
      obtain ⟨rows, moved, result⟩ := bind_eq_ok.mp done
      cases result
      exact move_steps moved
  | deleteNode node recursive =>
      by_cases there : t.rows.isChild node = true
      · simp only [apply, there, if_true] at done
        cases done
        exact .single (.remove node there)
      · simp only [apply, there] at done
        cases done
  | updateBookmark node title url =>
      by_cases bookmark : t.rows.isBookmark node = true
      · obtain ⟨change, retains, _, updated⟩ := update_bookmark_ok now bookmark title url
        rw [done] at updated
        cases updated
        exact .single (.change node change (fun old => (retains old).kind) (fun old => (retains old).parentId))
      · rw [update_bookmark_missing (Bool.eq_false_iff.mpr bookmark)] at done
        cases done
  | saveSession parent title tabs index =>
      obtain ⟨⟨folder, between⟩, inserted, tabbed⟩ := bind_eq_ok.mp done
      exact (add_steps inserted).trans (add_tabs_steps tabbed)

theorem apply_all_steps {batch : List Operation} (done : t.applyAll now batch = .ok next) : Steps t.rows next.rows := by
  induction batch generalizing t with
  | nil =>
      cases done
      exact .refl
  | cons operation rest ih =>
      obtain ⟨between, applied, others⟩ := bind_eq_ok.mp done
      exact (apply_steps applied).trans (ih others)

end Transaction

theorem IdSource.digit_ne_r : ∀ n < 16, Nat.digitChar n ≠ 'r' := by
  decide

theorem IdSource.text_ne_root (source : IdSource) : source.text ≠ rootId := by
  intro same
  obtain ⟨rest, shape⟩ := digits_head 11 source.latest
  have characters := congrArg String.toList same
  rw [text, shape, List.cons_append, String.toList_ofList] at characters
  exact digit_ne_r _ (Nat.mod_lt _ (by decide)) (List.cons.inj characters).1

namespace Rows

variable {ω : Type} {rows after : Rows ω}

-- The root is there, and it is below nothing.
def Rooted (rows : Rows ω) : Prop := ∃ row, rows.get? rootId = some row ∧ row.parentId = none

theorem Rooted.contains (rooted : Rooted rows) : rows.contains rootId = true := by
  obtain ⟨row, found, _⟩ := rooted
  exact Keyed.contains_iff.mpr ⟨row, found⟩

theorem Rooted.insert {id : String} (rooted : Rooted rows) (different : id ≠ rootId) (row : Row ω) :
    Rooted (rows.insert id row) := by
  obtain ⟨root, found, top⟩ := rooted
  refine ⟨root, ?_, top⟩
  rw [Keyed.get?_insert, if_neg different]
  exact found

theorem Rooted.step (rooted : Rooted rows) (step : Step rows after) : Rooted after := by
  cases step with
  | add source kind row isKind below => exact rooted.insert (IdSource.text_ne_root source) row
  | move id old row found child kind below =>
      refine rooted.insert ?_ row
      intro same
      obtain ⟨root, foundRoot, top⟩ := rooted
      rw [same, foundRoot] at found
      cases found
      rw [top] at child
      cases child
  | change id change kind parentId =>
      obtain ⟨root, found, top⟩ := rooted
      unfold Rooted
      rw [Keyed.get?_modify]
      split
      · rename_i same
        exact ⟨change root, by rw [same, found]; rfl, (parentId root).trans top⟩
      · exact ⟨root, found, top⟩
  | remove id child =>
      obtain ⟨root, found, top⟩ := rooted
      refine ⟨root, ?_, top⟩
      rw [(get?_removeAll rows [id] rootId).2 ?_]
      · exact found
      · -- nothing is above the root, so it could only be the row itself that is removed
        intro doomed
        obtain ⟨_, path⟩ := doomed_one_iff.mp doomed
        rcases ReflTransGen.cases_head path with same | ⟨parent, ⟨row, foundRow, below⟩, _⟩
        · rw [isChild, ← same, found, Option.any_some, top] at child
          cases child
        · rw [found] at foundRow
          cases foundRow
          rw [top] at below
          cases below

theorem Rooted.steps (rooted : Rooted rows) (steps : Steps rows after) : Rooted after := by
  induction steps with
  | refl => exact rooted
  | tail _ step ih => exact ih.step step

end Rows

end Bookmarks
