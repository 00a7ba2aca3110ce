import Bookmarks.Proofs.Batch.Agreement
import Bookmarks.Store.Basic

/-!
A batch that is applied to a store. A batch that is accepted and names nodes by their ids is stored, and
the tree that is loaded then is the one that was checked; one that names a node by a number is not stored.
-/
set_option autoImplicit false

namespace Bookmarks

open Projection (pendingId)

-- The ids for the nodes that a batch adds, in the order in which it adds them.
def newIds (source : IdSource) (now : Int) (batch : List Operation) : List String :=
  source.made now (batch.map Operation.adds).sum

variable {ω : Type}

-- Ids that no row has, no two of them the same.
structure Fresh (rows : Rows ω) (ids : List String) : Prop where
  nodup : ids.Nodup
  absent : ∀ id ∈ ids, rows.get? id = none

/-- What has been checked is the tree, under other names. -/
structure Becomes (f : Equiv.Perm String) (p : Projection) (tree : Tree ω) : Prop where
  nodes : ∀ id, (tree.nodes.get? (f id)).map (fun node => (node.kind, node.parentId)) =
    (p.nodes.get? id).map fun place => (place.kind, place.parent.map f)
  children : ∀ id, tree.childrenOf (f id) = (p.childrenOf id).map f

variable {born now : Int} {rows : Rows ω} {source : IdSource} {tree : Tree ω} {version : String}
  {batch : List Operation} {p q : Projection} {t : Transaction ω} {f : Equiv.Perm String} {total : Nat}

theorem names_exchange (nodup : (source.made now total).Nodup) :
    Names (exchange 1 (source.made now total)) source now total := by
  intro number inside
  have made : (source.made now total)[number]? = some (source.after now (number + 1)).text :=
    IdSource.made_get inside
  have moved := exchange_pending 1 nodup (fun _ => IdSource.made_not_pending) made
  rw [Nat.add_comm 1 number] at moved
  exact moved

theorem pending_of_project (accepted : tree.project batch = .ok p) : p.pending = (batch.map Operation.adds).sum := by
  have counted := Projection.pending_of_apply_all accepted
  rwa [Projection.ofTree, Nat.zero_add] at counted

variable [LinearOrder ω] [SiblingOrd ω]

theorem exchange_row {ids : List String} (sound : Rows.Sound born rows) (fresh : Fresh rows ids) {id : String}
    (present : rows.contains id = true) : exchange 1 ids id = id := by
  apply exchange_other
  · intro number _ same
    exact sound.named id present (same ▸ pending_id_pending number)
  · intro member
    exact Keyed.not_contains_iff.mpr (fresh.absent id member) present

theorem becomes_of_agrees (agrees : Agrees born now f source p t) (version : String) :
    ∃ after, t.rows.tree version = .ok after ∧ Becomes f p after := by
  obtain ⟨after, loaded, _, _, shown, lists⟩ := Rows.tree_ok agrees.sound.legible version
  refine ⟨after, loaded, ?_, ?_⟩
  · intro id
    rw [shown, Keyed.get?_map]
    cases found : p.nodes.get? id with
    | none => rw [agrees.mirrors.absent found]; rfl
    | some place =>
        obtain ⟨row, stored, kind, above⟩ := agrees.mirrors.row found
        simp [stored, Rows.nodeAt, kind, above, Kind.ofName?_name]
  · intro id
    rw [lists, agrees.mirrors.lists]

theorem agrees_start (sound : Rows.Sound born rows) (loaded : rows.tree version = .ok tree)
    (fresh : Fresh rows (newIds source now batch)) :
    Agrees born now (exchange 1 (newIds source now batch)) source (Projection.ofTree tree) ⟨rows, source⟩ :=
  Agrees.start sound loaded fun _ present => exchange_row sound fresh present

variable [RoomyOrd ω]

-- The storage goes through a whole accepted batch as the check did, if the batch names no numbers.
theorem stored_of_project (sound : Rows.Sound born rows) (loaded : rows.tree version = .ok tree)
    (accepted : tree.project batch = .ok p) (fresh : Fresh rows (newIds source now batch))
    (plain : ∀ operation ∈ batch, ∀ id ∈ operation.names, ¬ IsPending id) :
    ∃ t, (Transaction.mk rows source).applyAll now batch = .ok t ∧
      Agrees born now (exchange 1 (newIds source now batch)) source p t :=
  (agrees_start sound loaded fresh).apply_all accepted plain (names_exchange fresh.nodup)
    (pending_of_project accepted).le

theorem plain_of_stored (sound : Rows.Sound born rows) (loaded : rows.tree version = .ok tree)
    (accepted : tree.project batch = .ok p) (fresh : Fresh rows (newIds source now batch))
    (stored : (Transaction.mk rows source).applyAll now batch = .ok t) :
    ∀ operation ∈ batch, ∀ id ∈ operation.names, ¬ IsPending id :=
  (agrees_start sound loaded fresh).plain_of_apply_all accepted (names_exchange fresh.nodup)
    (pending_of_project accepted).le stored

-- Of the names in an accepted operation those that are numbers have no row when it is its turn, and
-- all others have one.
theorem row_of_name (sound : Rows.Sound born rows) (loaded : rows.tree version = .ok tree)
    {done rest : List Operation} {operation : Operation}
    (accepted : tree.project (done ++ operation :: rest) = .ok p)
    (fresh : Fresh rows (newIds source now (done ++ operation :: rest)))
    (stored : (Transaction.mk rows source).applyAll now done = .ok t) {id : String} (named : id ∈ operation.names) :
    t.rows.contains id = true ↔ ¬ IsPending id := by
  have start : Agrees born now (exchange 1 (newIds source now (done ++ operation :: rest))) source
      (Projection.ofTree tree) ⟨rows, source⟩ := agrees_start sound loaded fresh
  have names := names_exchange fresh.nodup
  have total := (pending_of_project accepted).le
  rw [Tree.project, Projection.apply_all_append] at accepted
  obtain ⟨middle, before, after⟩ := bind_eq_ok.mp accepted
  have counted := Projection.pending_of_apply_all after
  have plain := start.plain_of_apply_all before names (by omega) stored
  obtain ⟨same, storedSame, agrees⟩ := start.apply_all before plain names (by omega)
  rw [stored] at storedSame
  cases storedSame
  unfold Projection.applyAll at after
  split at after
  · cases after
  · rename_i next applied
    have there := Projection.contains_of_accepts (Projection.accepts_of_ok applied) named
    constructor
    · exact agrees.sound.named id
    · intro isPlain
      obtain ⟨place, found⟩ := Keyed.contains_iff.mp there
      obtain ⟨row, stored, _⟩ := agrees.mirrors.row found
      rw [agrees.fixed id there isPlain] at stored
      exact Keyed.contains_iff.mpr ⟨row, stored⟩

-- What daemons have stored, from the root on: nothing but accepted batches.
inductive Written (born : Int) : Rows ω → Prop
  | root : Written born (Rows.withRoot ∅ born)
  | batch (rows : Rows ω) (version : String) (tree : Tree ω) (batch : List Operation) (p : Projection)
      (source : IdSource) (now : Int) (t : Transaction ω) (written : Written born rows)
      (loaded : rows.tree version = .ok tree) (accepted : tree.project batch = .ok p)
      (fresh : Fresh rows (newIds source now batch))
      (stored : (Transaction.mk rows source).applyAll now batch = .ok t) : Written born t.rows

theorem Written.sound (written : Written born rows) : Rows.Sound born rows := by
  induction written with
  | root => exact Rows.sound_root born
  | batch rows version tree batch p source now t _ loaded accepted fresh stored sound =>
      have plain := plain_of_stored sound loaded accepted fresh stored
      obtain ⟨same, storedSame, agrees⟩ := stored_of_project sound loaded accepted fresh plain
      rw [stored] at storedSame
      cases storedSame
      exact agrees.sound

end Bookmarks
