import Bookmarks.Proofs.Batch.Renaming
import Bookmarks.Proofs.Daemon.Acceptance
import Bookmarks.Proofs.Outline.Verdict
import Bookmarks.Proofs.Store.Lockstep

/-!
Two batches at once, or one after the other: the check and the storage make no difference between the two
(`batches_compose`).
-/
set_option autoImplicit false

namespace Bookmarks

open Projection (Renames)

variable {ω : Type}

namespace Tree

-- The verdict on a batch, without what becomes of the tree.
def verdict (tree : Tree ω) (batch : List Operation) : Except Rejection Unit :=
  (tree.project batch).map fun _ => ()

/-- The second tree is the first one with `f` applied to all ids, whatever their times. -/
structure Alike (f : Equiv.Perm String) (one two : Tree ω) : Prop where
  nodes : ∀ id, (two.nodes.get? (f id)).map (fun node => (node.kind, node.title, node.url, node.parentId, node.ord)) =
    (one.nodes.get? id).map fun node => (node.kind, node.title, node.url, node.parentId.map f, node.ord)
  children : ∀ id, two.childrenOf (f id) = (one.childrenOf id).map f

variable {tree : Tree ω} {batch : List Operation}

theorem verdict_ok_iff : tree.verdict batch = .ok () ↔ ∃ p, tree.project batch = .ok p := by
  rw [verdict]
  cases tree.project batch with
  | ok p => exact iff_of_true rfl ⟨p, rfl⟩
  | error rejection =>
      refine iff_of_false ?_ ?_
      · rintro ⟨⟩
      · rintro ⟨_, ⟨⟩⟩

theorem verdict_error_iff {rejection : Rejection} :
    tree.verdict batch = .error rejection ↔ tree.project batch = .error rejection := by
  rw [verdict]
  cases tree.project batch with
  | ok p =>
      refine iff_of_false ?_ ?_
      · rintro ⟨⟩
      · rintro ⟨⟩
  | error other =>
      constructor
      · rintro ⟨⟩
        rfl
      · rintro ⟨⟩
        rfl

theorem project_append (before : Tree ω) (first second : List Operation) :
    before.project (first ++ second) = before.project first >>= (·.applyAll first.length second) := by
  rw [project, Projection.apply_all_append, Nat.zero_add]
  rfl

theorem verdict_append (before : Tree ω) (first second : List Operation) :
    before.verdict (first ++ second) = before.project first >>= (·.verdict first.length second) := by
  rw [verdict, project_append]
  cases before.project first <;> rfl

end Tree

-- The projection that the check has arrived at, and the one that it would start from anew.
theorem renames_of_becomes {p : Projection} {f : Equiv.Perm String} {after : Tree ω} (arranged : after.Arranged)
    (becomes : Becomes f p after) : Renames f p (Projection.ofTree after) := by
  refine ⟨fun id => ?_, becomes.children⟩
  have same := becomes.nodes id
  rw [Projection.place_of_tree arranged.named]
  cases found : p.nodes.get? id with
  | none =>
      rw [found] at same
      rw [Option.map_eq_none_iff.mp same]
      rfl
  | some place =>
      rw [found] at same
      obtain ⟨node, there, shape⟩ := Option.map_eq_some_iff.mp same
      obtain ⟨kind, above⟩ := Prod.mk.inj shape
      rw [there, Option.map_some, Option.map_some, kind, above]

section

variable [LinearOrder ω] [SiblingOrd ω] [RoomyOrd ω] {born now later whole : Int} {rows : Rows ω} {source : IdSource}
  {version : String} {before after : Tree ω} {first second : List Operation} {p q : Projection}
  {t u v : Transaction ω} {f : Equiv.Perm String}

theorem projection_arranged (sound : Rows.Sound born rows) (loaded : rows.tree version = .ok before) :
    (Projection.ofTree before).Arranged := by
  refine (sound.well_formed loaded).arranged.projected fun id there => ?_
  rw [Rows.contains_of_tree loaded] at there
  exact sound.named id there

theorem verdict_of_stored (sound : Rows.Sound born rows) (loaded : rows.tree version = .ok before)
    (accepted : before.project first = .ok p) (fresh : Fresh rows (newIds source now first))
    (stored : (Transaction.mk rows source).applyAll now first = .ok t) (reloaded : t.rows.tree version = .ok after)
    (named : ∀ operation ∈ second, ∀ id ∈ operation.names, rows.contains id = true) :
    before.verdict (first ++ second) = (after.verdict second).mapError (·.later first.length) := by
  have plain := plain_of_stored sound loaded accepted fresh stored
  obtain ⟨same, storedSame, agrees⟩ := stored_of_project sound loaded accepted fresh plain
  rw [stored] at storedSame
  obtain rfl := Except.ok.inj storedSame
  obtain ⟨tree, shown, becomes⟩ := becomes_of_agrees agrees version
  rw [reloaded] at shown
  obtain rfl := Except.ok.inj shown
  have renames := renames_of_becomes (agrees.sound.well_formed reloaded).arranged becomes
  rw [Tree.verdict_append, accepted]
  refine renames.verdict_eq ((projection_arranged sound loaded).apply_all accepted)
    (projection_arranged agrees.sound reloaded) ?_ ?_ first.length 0
  · intro operation member id name
    exact exchange_row sound fresh (named operation member id name)
  · intro operation member id name
    exact sound.named id (named operation member id name)

theorem tree_alike {left right : Rows ω} {one two : Tree ω} (alike : Rows.Alike f left right)
    (spaced : Rows.Spaced left) (loaded : left.tree version = .ok one) (loadedRight : right.tree version = .ok two) :
    Tree.Alike f one two := by
  obtain ⟨same, loadedSame, _, _, shown, lists⟩ := Rows.tree_ok (Rows.legible_of_tree loaded) version
  rw [loaded] at loadedSame
  obtain rfl := Except.ok.inj loadedSame
  obtain ⟨same, loadedSame, _, _, shownRight, listsRight⟩ := Rows.tree_ok (Rows.legible_of_tree loadedRight) version
  rw [loadedRight] at loadedSame
  obtain rfl := Except.ok.inj loadedSame
  refine ⟨fun id => ?nodes, fun id => ?children⟩
  case nodes =>
    rw [shown, shownRight, Keyed.get?_map, Keyed.get?_map]
    cases stored : left.get? id with
    | none =>
        rw [(alike.absent_iff id).mpr stored]
        rfl
    | some row =>
        obtain ⟨other, found, like⟩ := alike.row_of_left stored
        simp [found, Rows.nodeAt, like.kind, like.title, like.url, like.parentId, like.ord]
  case children => rw [lists, listsRight, alike.child_ids spaced]

-- Both batches in one run, and one after the other.
theorem stored_alike (sound : Rows.Sound born rows) (loaded : rows.tree version = .ok before)
    (accepted : before.project (first ++ second) = .ok p)
    (plain : ∀ operation ∈ first ++ second, ∀ id ∈ operation.names, ¬ IsPending id)
    (fresh : Fresh rows (newIds source whole (first ++ second))) (freshFirst : Fresh rows (newIds source now first))
    (stored : (Transaction.mk rows source).applyAll now first = .ok u)
    (freshSecond : Fresh u.rows (newIds u.ids later second)) (storedAfter : u.applyAll later second = .ok v) :
    ∃ t g, (Transaction.mk rows source).applyAll whole (first ++ second) = .ok t ∧ Rows.Sound born t.rows ∧
      Rows.Alike g t.rows v.rows ∧
      ∀ id, rows.contains id = true → t.rows.contains id = true → g id = id := by
  have start : Agrees born whole (exchange 1 (newIds source whole (first ++ second))) source
      (Projection.ofTree before) ⟨rows, source⟩ := agrees_start sound loaded fresh
  have names := names_exchange fresh.nodup
  have total := (pending_of_project accepted).le
  obtain ⟨t, done, agrees⟩ := stored_of_project sound loaded accepted fresh plain
  have plainFirst : ∀ operation ∈ first, ∀ id ∈ operation.names, ¬ IsPending id := fun operation member =>
    plain operation (List.mem_append_left second member)
  have plainSecond : ∀ operation ∈ second, ∀ id ∈ operation.names, ¬ IsPending id := fun operation member =>
    plain operation (List.mem_append_right first member)
  rw [Tree.project_append] at accepted
  obtain ⟨middle, acceptedFirst, acceptedSecond⟩ := bind_eq_ok.mp accepted
  have counted := Projection.pending_of_apply_all acceptedSecond
  obtain ⟨between, doneFirst, agreesBetween⟩ := start.apply_all acceptedFirst plainFirst names (by omega)
  have doneSecond : between.applyAll whole second = .ok t := by
    rw [Transaction.apply_all_append, bind_of_ok doneFirst] at done
    exact done
  obtain ⟨g, alikeBetween, fixedBetween⟩ := Transaction.apply_all_alike start acceptedFirst plainFirst names (by omega)
    (Rows.Alike.refl rows) (fun _ _ _ _ => rfl) fresh.batch_left freshFirst doneFirst stored
  obtain ⟨h, alike, fixed⟩ := Transaction.apply_all_alike agreesBetween acceptedSecond plainSecond names total
    alikeBetween fixedBetween (Transaction.fresh_after doneFirst fresh) freshSecond doneSecond storedAfter
  refine ⟨t, h, done, agrees.sound, alike, fun id there kept => ?_⟩
  exact fixed id (sound.named id there) (exchange_row sound fresh there) kept

end

namespace Daemon

variable {σ : Type} [WrittenOrd ω] {daemon : Daemon ω σ} {store middle : Store ω} {now : Int} {before after : Tree ω}
  {first second : List Operation} {p q r : Projection}

theorem Settled.apply_cases (settled : Settled store) (applied : store.apply now first = (.ok after, middle)) :
    ∃ t writes, (Transaction.mk store.rows store.ids).applyAll now first = .ok t ∧
      middle = { store with database := ⟨t.rows, writes⟩, ids := t.ids } ∧ middle.load = .ok after := by
  cases stored : (Transaction.mk store.rows store.ids).applyAll now first with
  | error failure =>
      simp only [Store.apply, Store.commit, settled.current, if_true, stored] at applied
      cases applied
  | ok t =>
      obtain ⟨writes, committed⟩ := settled.commit_eq stored
      simp only [Store.apply, committed] at applied
      obtain ⟨loaded, same⟩ := Prod.mk.inj applied
      rw [same] at loaded
      exact ⟨t, writes, rfl, same.symm, loaded⟩

theorem tree_after {t : Transaction ω} {writes : Nat} {version : String}
    (read : store.version = .ok version)
    (loaded : ({ store with database := ⟨t.rows, writes⟩, ids := t.ids } : Store ω).load = .ok after) :
    t.rows.tree version = .ok after := by
  rw [Store.load, bind_of_ok (Store.version_of_database read _ _)] at loaded
  exact loaded

variable [LinearOrder ω] [RoomyOrd ω]

theorem Settled.verdict_after (settled : Settled store) (loaded : store.load = .ok before)
    (accepted : before.project first = .ok p) (fresh : Fresh store.rows (newIds store.ids now first))
    (applied : store.apply now first = (.ok after, middle))
    (named : ∀ operation ∈ second, ∀ id ∈ operation.names, before.nodes.contains id = true) :
    before.verdict (first ++ second) = (after.verdict second).mapError (·.later first.length) := by
  obtain ⟨born, written⟩ := settled.written
  obtain ⟨version, read, shown⟩ := bind_eq_ok.mp loaded
  obtain ⟨t, writes, stored, rfl, reloaded⟩ := settled.apply_cases applied
  refine verdict_of_stored written.sound shown accepted fresh stored (tree_after read reloaded) ?_
  intro operation member id name
  rw [← Rows.contains_of_tree shown]
  exact named operation member id name

theorem Settled.apply_alike (settled : Settled store) (loaded : store.load = .ok before)
    (accepted : before.project first = .ok p) (acceptedBoth : before.project (first ++ second) = .ok q)
    (fresh : Fresh store.rows (newIds store.ids now first)) (applied : store.apply now first = (.ok after, middle))
    (acceptedSecond : after.project second = .ok r)
    (named : ∀ operation ∈ second, ∀ id ∈ operation.names, before.nodes.contains id = true) (whole later : Int)
    (freshBoth : Fresh store.rows (newIds store.ids whole (first ++ second)))
    (freshSecond : Fresh middle.rows (newIds middle.ids later second)) :
    ∃ one two f, (store.apply whole (first ++ second)).1 = .ok one ∧ (middle.apply later second).1 = .ok two ∧
      Tree.Alike f one two ∧
      ∀ id, before.nodes.contains id = true → one.nodes.contains id = true → f id = id := by
  obtain ⟨born, written⟩ := settled.written
  obtain ⟨version, read, shown⟩ := bind_eq_ok.mp loaded
  obtain ⟨t, writes, stored, rfl, reloaded⟩ := settled.apply_cases applied
  have shownAfter := tree_after read reloaded
  have plainFirst := plain_of_stored written.sound shown accepted fresh stored
  have plainSecond : ∀ operation ∈ second, ∀ id ∈ operation.names, ¬ IsPending id := by
    intro operation member id name
    apply written.sound.named id
    rw [← Rows.contains_of_tree shown]
    exact named operation member id name
  have writtenAfter : Written born t.rows :=
    .batch store.rows version before first p store.ids now t written shown accepted fresh stored
  obtain ⟨v, storedSecond, agrees⟩ :=
    stored_of_project writtenAfter.sound shownAfter acceptedSecond freshSecond plainSecond
  obtain ⟨u, f, storedBoth, sound, alike, fixed⟩ := stored_alike written.sound shown acceptedBoth
    (fun operation member => (List.mem_append.mp member).elim (plainFirst operation) (plainSecond operation))
    freshBoth fresh stored freshSecond storedSecond
  obtain ⟨one, shownOne, _⟩ := Rows.tree_ok sound.legible version
  obtain ⟨two, shownTwo, _⟩ := Rows.tree_ok agrees.sound.legible version
  have settledAfter : Settled { store with database := ⟨t.rows, writes⟩, ids := t.ids } :=
    ⟨settled.current, settled.apart, born, writtenAfter⟩
  refine ⟨one, two, f, settled.apply_of_stored read storedBoth shownOne,
    settledAfter.apply_of_stored (Store.version_of_database read _ _) storedSecond shownTwo,
    tree_alike alike sound.spaced shownOne shownTwo, fun id old kept => ?_⟩
  rw [Rows.contains_of_tree shown] at old
  rw [Rows.contains_of_tree shownOne] at kept
  exact fixed id old kept

/-- Batches compose. Two batches in a row are rejected with the first one, if that is rejected. Otherwise the verdict on
them is that on the second against the tree that the first one makes; only the operations of the first are counted on
top. And if both are accepted, the tree that is stored is the same whether they are applied at once or one after the
other, but for new ids and times. The ords may be of any type that is computed exactly: could two siblings get one ord,
their order would hang on their ids, and these are not the same both times. -/
theorem batches_compose (reachable : Reachable daemon) (loaded : daemon.store.load = .ok before)
    (first : List Operation) (named : ∀ operation ∈ second, ∀ id ∈ operation.names, before.nodes.contains id = true) :
    (∀ rejection, before.verdict first = .error rejection → before.verdict (first ++ second) = .error rejection) ∧
    ∀ now, before.verdict first = .ok () → daemon.FreshFor now first →
      ((∃ after, (daemon.store.apply now first).1 = .ok after) ↔
        ∀ operation ∈ first, ∀ id ∈ operation.names, ¬ IsPending id) ∧
      ∀ after middle, daemon.store.apply now first = (.ok after, middle) →
        before.verdict (first ++ second) = (after.verdict second).mapError (·.later first.length) ∧
        (after.verdict second = .ok () → ∀ whole later, daemon.FreshFor whole (first ++ second) →
          Fresh middle.rows (newIds middle.ids later second) →
          ∃ one two f, (daemon.store.apply whole (first ++ second)).1 = .ok one ∧
            (middle.apply later second).1 = .ok two ∧ Tree.Alike f one two ∧
            ∀ id, before.nodes.contains id = true → one.nodes.contains id = true → f id = id) := by
  have settled := reachable.settled
  refine ⟨fun rejection rejected => ?_, fun now verdict fresh => ?_⟩
  · rw [Tree.verdict_append, Tree.verdict_error_iff.mp rejected]
    rfl
  obtain ⟨p, accepted⟩ := Tree.verdict_ok_iff.mp verdict
  refine ⟨⟨?_, ?_⟩, fun after middle applied => ?_⟩
  · rintro ⟨after, applied⟩
    exact settled.plain_of_apply loaded accepted fresh applied
  · intro plain
    obtain ⟨after, applied, _⟩ := settled.apply_ok loaded accepted fresh plain
    exact ⟨after, applied⟩
  have judged := settled.verdict_after loaded accepted fresh applied named
  refine ⟨judged, fun verdictSecond whole later freshBoth freshSecond => ?_⟩
  rw [verdictSecond] at judged
  obtain ⟨q, acceptedBoth⟩ := Tree.verdict_ok_iff.mp judged
  obtain ⟨r, acceptedSecond⟩ := Tree.verdict_ok_iff.mp verdictSecond
  exact settled.apply_alike loaded accepted acceptedBoth fresh applied acceptedSecond named whole later freshBoth
    freshSecond

-- A folder in the root, and then another one before it.
theorem batches_compose_newcomer :
    ∃ (before after one two : Tree ℚ) (middle : Store ℚ) (f : Equiv.Perm String),
      newcomer.store.load = .ok before ∧
      newcomer.store.apply 1 [.addFolder "root" "A" none] = (.ok after, middle) ∧
      before.verdict ([.addFolder "root" "A" none] ++ [.addFolder "root" "B" (some 0)]) =
        (after.verdict [.addFolder "root" "B" (some 0)]).mapError (·.later 1) ∧
      (newcomer.store.apply 2 ([.addFolder "root" "A" none] ++ [.addFolder "root" "B" (some 0)])).1 = .ok one ∧
      (middle.apply 3 [.addFolder "root" "B" (some 0)]).1 = .ok two ∧ Tree.Alike f one two := by
  obtain ⟨before, both, loaded, acceptedBoth⟩ := newcomer_accepts
    ([.addFolder "root" "A" none] ++ [.addFolder "root" "B" (some 0)]) (by decide +kernel)
  have verdictBoth := Tree.verdict_ok_iff.mpr ⟨both, acceptedBoth⟩
  have named : ∀ operation ∈ [Operation.addFolder "root" "B" (some 0)], ∀ id ∈ operation.names,
      before.nodes.contains id = true := by
    obtain ⟨version, _, shown⟩ := bind_eq_ok.mp loaded
    intro operation member id name
    rw [List.mem_singleton.mp member] at name
    rw [List.mem_singleton.mp name, Rows.contains_of_tree shown]
    decide +kernel
  have composes := batches_compose newcomer_reachable loaded [.addFolder "root" "A" none] named
  rw [Tree.project_append] at acceptedBoth
  obtain ⟨p, accepted, _⟩ := bind_eq_ok.mp acceptedBoth
  obtain ⟨stored, compose⟩ := composes.2 1 (Tree.verdict_ok_iff.mpr ⟨p, accepted⟩)
    (newcomer_fresh 1 _ (by decide +kernel) (by decide +kernel))
  obtain ⟨after, applied⟩ := stored.mpr (by decide +kernel)
  obtain ⟨judged, alike⟩ := compose after _ (Prod.ext applied rfl)
  rw [judged] at verdictBoth
  obtain ⟨one, two, f, atOnce, inTurn, same, _⟩ := alike (map_error_ok.mp verdictBoth) 2 3
    (newcomer_fresh 2 _ (by decide +kernel) (by decide +kernel)) ⟨by decide +kernel, by decide +kernel⟩
  exact ⟨before, after, one, two, _, f, loaded, Prod.ext applied rfl, judged, atOnce, inTurn, same⟩

end Daemon

end Bookmarks
