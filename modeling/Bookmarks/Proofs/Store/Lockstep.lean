import Bookmarks.Proofs.Rows.Likeness
import Bookmarks.Proofs.Store.Additions

/-!
One batch applied twice, to rows that are alike, at different times and with different new ids. The rows stay alike
from operation to operation (`apply_alike`), so they are alike after the batch (`apply_all_alike`).
-/
set_option autoImplicit false

namespace Bookmarks

variable {ω : Type} [LinearOrder ω] [SiblingOrd ω] [RoomyOrd ω]

omit [RoomyOrd ω] in
-- The ids that are made for an operation are those that the naming gives to numbers.
theorem Agrees.unmade {born now : Int} {id : String} {operation : Operation} {t : Transaction ω}
    {h : Equiv.Perm String} {source : IdSource} {p : Projection} {total : Nat} (agrees : Agrees born now h source p t)
    (names : Names h source now total) (room : p.pending + operation.adds ≤ total) (plain : ¬ IsPending id)
    (still : h id = id) :
    id ∉ newIds t.ids now [operation] := by
  intro made
  rw [newIds, List.map_singleton, List.sum_singleton, IdSource.made, List.mem_map] at made
  obtain ⟨number, inside, text⟩ := made
  rw [agrees.ids, IdSource.after_add] at text
  have below := List.mem_range.mp inside
  have named := names (p.pending + number) (by omega)
  have same : h (Projection.pendingId (p.pending + number + 1)) = h id := by rw [named, still, ← text]; rfl
  exact plain (h.injective same ▸ pending_id_pending _)

namespace Transaction

variable {t next : Transaction ω} {now : Int} {operation : Operation} {id : String}

omit [LinearOrder ω] [RoomyOrd ω] in
theorem apply_all_append (t : Transaction ω) (now : Int) (first second : List Operation) :
    t.applyAll now (first ++ second) = t.applyAll now first >>= (·.applyAll now second) := by
  induction first generalizing t with
  | nil => rfl
  | cons operation rest ih =>
      rw [List.cons_append, applyAll, applyAll]
      cases applied : t.apply now operation with
      | error failure => rfl
      | ok between => exact ih between

theorem Added.origin {parent title : String} {kind : Kind} {url : Option String} {index : Option Int} {ord : ω}
    {rows : Rows ω} (added : Added t now parent kind title url index ord rows next) (old : id ≠ t.nextId now)
    (there : next.rows.contains id = true) : t.rows.contains id = true := by
  obtain ⟨row, stored⟩ := Keyed.contains_iff.mp there
  rw [added.result] at stored
  obtain ⟨before, _, found, _⟩ := Rows.get?_of_place (Rows.reordered_of_ok added.found) old stored
  exact Keyed.contains_iff.mpr ⟨before, found⟩

omit [LinearOrder ω] [RoomyOrd ω] in
theorem Applied.ids (applied : Applied t now operation next) : next.ids = t.ids.after now operation.adds := by
  cases applied with
  | addFolder parent title index ord rows next added => rw [added.result]; rfl
  | addBookmark parent title url index ord rows next added => rw [added.result]; rfl
  | renameNode id title child => rfl
  | moveNode id parent index row ord rows stored child found parented => rfl
  | deleteNode id recursive child => rfl
  | idle id bookmark => rfl
  | updateBookmark id title url bookmark given => rfl
  | saveSession parent title tabs index ord rows between added =>
      rw [added.result, IdSource.after_advance, Operation.adds, Nat.add_comm]

-- The rows after an operation are rows that were there before, and the new ones.
theorem Applied.origin (applied : Applied t now operation next) (old : id ∉ newIds t.ids now [operation])
    (there : next.rows.contains id = true) : t.rows.contains id = true := by
  have unmade : ∀ {count}, id ∉ t.ids.made now (count + 1) → id ≠ t.nextId now := by
    rintro count unlisted rfl
    rw [IdSource.made_succ] at unlisted
    exact unlisted List.mem_cons_self
  obtain ⟨row, stored⟩ := Keyed.contains_iff.mp there
  cases applied with
  | addFolder parent title index ord rows next added =>
      rw [new_ids_one t now rfl] at old
      exact added.origin (unmade old) there
  | addBookmark parent title url index ord rows next added =>
      rw [new_ids_one t now rfl] at old
      exact added.origin (unmade old) there
  | renameNode node title child =>
      rw [← Keyed.contains_modify]
      exact there
  | moveNode node parent index moved ord rows found child allocated parented =>
      by_cases same : id = node
      · exact Keyed.contains_iff.mpr ⟨moved, same ▸ found⟩
      · obtain ⟨before, _, there, _⟩ := Rows.get?_of_place (Rows.reordered_of_ok allocated) same stored
        exact Keyed.contains_iff.mpr ⟨before, there⟩
  | deleteNode node recursive child =>
      obtain ⟨gone, kept⟩ := Rows.get?_removeAll t.rows [node] id
      have spared : ¬ Rows.Doomed t.rows [node] id := by
        intro doomed
        rw [gone doomed] at stored
        cases stored
      rw [kept spared] at stored
      exact Keyed.contains_iff.mpr ⟨row, stored⟩
  | idle node bookmark => exact there
  | updateBookmark node title url bookmark given =>
      rw [← Keyed.contains_modify]
      exact there
  | saveSession parent title tabs index ord rows between added =>
      rw [new_ids_session] at old
      have source : between.ids = t.ids.advance now := by rw [added.result]
      have unlisted : Keyed.lookup id (tabRows (ω := ω) now (t.nextId now) between.ids 0 tabs).reverse = none := by
        apply Keyed.lookup_eq_none_iff.mpr
        intro tab member
        apply old
        rw [IdSource.made_succ, ← source, ← tab_row_ids (ω := ω) now (t.nextId now) between.ids 0 tabs]
        exact List.mem_cons_of_mem _ (List.mem_map.mpr ⟨(id, tab), List.mem_reverse.mp member, rfl⟩)
      rw [Rows.putAll, Keyed.get?_foldl_insert, unlisted, Option.none_or] at stored
      exact added.origin (unmade old) (Keyed.contains_iff.mpr ⟨row, stored⟩)

theorem Applied.fresh {rest : List Operation} (applied : Applied t now operation next)
    (fresh : Fresh t.rows (newIds t.ids now (operation :: rest))) : Fresh next.rows (newIds next.ids now rest) := by
  rw [← List.singleton_append, new_ids_append] at fresh
  rw [applied.ids]
  simpa using fresh.right fun id old there => applied.origin old there

theorem fresh_after {first second : List Operation} (done : t.applyAll now first = .ok next)
    (fresh : Fresh t.rows (newIds t.ids now (first ++ second))) : Fresh next.rows (newIds next.ids now second) := by
  induction first generalizing t with
  | nil =>
      cases done
      exact fresh
  | cons operation rest ih =>
      obtain ⟨between, applied, finished⟩ := bind_eq_ok.mp done
      exact ih finished ((applied_of_ok applied).fresh fresh)

-- The second run: `u` and `v` at the time `later`, where the first one has `t` and `next` at the time `now`.
variable {u v : Transaction ω} {later : Int} {f : Equiv.Perm String}

section

variable {parent title : String} {kind : Kind} {url : Option String} {index : Option Int} {ord other : ω}
  {rows between : Rows ω}

theorem Added.closed (added : Added t now parent kind title url index ord rows next) (closed : Rows.Closed t.rows)
    (present : t.rows.contains parent = true) : Rows.Closed next.rows := by
  have reordered := Rows.reordered_of_ok added.found
  rw [added.result]
  exact (reordered.closed closed).insert rfl ((reordered.contains parent).trans present)

omit [LinearOrder ω] [RoomyOrd ω] in
theorem Added.contains_new (added : Added t now parent kind title url index ord rows next) :
    next.rows.contains (t.nextId now) = true := by
  rw [added.result]
  exact Keyed.contains_iff.mpr ⟨_, (Keyed.get?_insert _ _ _ _).trans (if_pos rfl)⟩

theorem Added.contains_old (added : Added t now parent kind title url index ord rows next)
    (there : t.rows.contains id = true) : next.rows.contains id = true := by
  rw [added.result]
  exact Keyed.contains_insert _ _ (((Rows.reordered_of_ok added.found).contains id).trans there)

theorem Added.alike (alike : Rows.Alike f t.rows u.rows) (closed : Rows.Closed t.rows) (spaced : Rows.Spaced t.rows)
    (one : Added t now parent kind title url index ord rows next)
    (two : Added u later (f parent) kind title url index other between v)
    (present : t.rows.contains parent = true) (absent : t.rows.get? (t.nextId now) = none)
    (absentRight : u.rows.get? (u.nextId later) = none) :
    ∃ g, Rows.Alike g next.rows v.rows ∧ g (t.nextId now) = u.nextId later ∧
      ∀ id, t.rows.contains id = true → g id = f id := by
  obtain ⟨same, found, alikeBetween⟩ := alike.allocate (spaced parent) one.found
  rw [Option.map_none, two.found] at found
  obtain ⟨rfl, rfl⟩ := Prod.mk.inj (Except.ok.inj found)
  have reordered := Rows.reordered_of_ok one.found
  have like : (newRow now parent kind title url other).Like f (newRow later (f parent) kind title url other) :=
    ⟨rfl, rfl, rfl, rfl, rfl⟩
  obtain ⟨g, inserted, named, agree⟩ := alikeBetween.insert_new (reordered.closed closed)
    (reordered.get?_eq_none absent) ((Rows.reordered_of_ok two.found).get?_eq_none absentRight) like rfl
    ((reordered.contains parent).trans present)
  rw [one.result, two.result]
  exact ⟨g, inserted, named, fun id there => agree id ((reordered.contains id).trans there)⟩

end

omit [LinearOrder ω] [RoomyOrd ω] in
theorem tabs_alike {left right : Rows ω} {source other : IdSource} {folder : String} {tabs : List Tab}
    (alike : Rows.Alike f left right) (closed : Rows.Closed left) (present : left.contains folder = true)
    (fresh : Fresh left (source.made now tabs.length)) (freshRight : Fresh right (other.made later tabs.length))
    (number : Nat) :
    ∃ g, Rows.Alike g (left.putAll (tabRows now folder source number tabs))
        (right.putAll (tabRows later (f folder) other number tabs)) ∧
      ∀ id, left.contains id = true → g id = f id := by
  induction tabs generalizing f left right source other number with
  | nil => exact ⟨f, alike, fun _ _ => rfl⟩
  | cons tab rest ih =>
      rw [List.length_cons, IdSource.made_succ] at fresh freshRight
      let row := newRow now folder .bookmark tab.title (some tab.url) (SiblingOrd.ofNat number : ω)
      let rowRight := newRow later (f folder) .bookmark tab.title (some tab.url) (SiblingOrd.ofNat number : ω)
      have like : row.Like f rowRight := ⟨rfl, rfl, rfl, rfl, rfl⟩
      obtain ⟨g, inserted, _, agree⟩ := alike.insert_new closed fresh.first freshRight.first like rfl present
      obtain ⟨h, all, agreeAll⟩ := ih inserted (closed.insert rfl present) (Keyed.contains_insert _ row present)
        (fresh.insert row) (freshRight.insert rowRight) (number + 1)
      rw [agree folder present] at all
      exact ⟨h, all, fun id there => (agreeAll id (Keyed.contains_insert _ row there)).trans (agree id there)⟩

-- Of each operation that succeeds on both sides. What it names has one name on both sides.
theorem apply_alike {born : Int} (alike : Rows.Alike f t.rows u.rows) (sound : Rows.Sound born t.rows)
    (fresh : Fresh t.rows (newIds t.ids now [operation])) (freshRight : Fresh u.rows (newIds u.ids later [operation]))
    (there : ∀ id ∈ operation.names, t.rows.contains id = true) (fixed : ∀ id ∈ operation.names, f id = id)
    (done : t.apply now operation = .ok next) (doneRight : u.apply later operation = .ok v) :
    ∃ g, Rows.Alike g next.rows v.rows ∧ ∀ id, t.rows.contains id = true → g id = f id := by
  have closed := sound.closed
  have appliedRight := applied_of_ok doneRight
  cases applied_of_ok done with
  | addFolder parent title index ord rows next added =>
      cases appliedRight with
      | addFolder _ _ _ other between v addedRight =>
          rw [new_ids_one _ _ rfl] at fresh freshRight
          rw [← fixed parent List.mem_cons_self] at addedRight
          obtain ⟨g, alikeNext, _, agree⟩ := added.alike alike closed sound.spaced addedRight
            (there parent List.mem_cons_self) (next_id_absent fresh) (next_id_absent freshRight)
          exact ⟨g, alikeNext, agree⟩
  | addBookmark parent title url index ord rows next added =>
      cases appliedRight with
      | addBookmark _ _ _ _ other between v addedRight =>
          rw [new_ids_one _ _ rfl] at fresh freshRight
          rw [← fixed parent List.mem_cons_self] at addedRight
          obtain ⟨g, alikeNext, _, agree⟩ := added.alike alike closed sound.spaced addedRight
            (there parent List.mem_cons_self) (next_id_absent fresh) (next_id_absent freshRight)
          exact ⟨g, alikeNext, agree⟩
  | renameNode id title child =>
      cases appliedRight with
      | renameNode _ _ childRight =>
          have changed : Rows.Alike f (t.rows.modify id fun row => { row with title, updatedAt := now })
              (u.rows.modify (f id) fun row => { row with title, updatedAt := later }) :=
            alike.modify fun row other like => ⟨like.kind, rfl, like.url, like.parentId, like.ord⟩
          rw [fixed id List.mem_cons_self] at changed
          exact ⟨f, changed, fun _ _ => rfl⟩
  | moveNode id parent index row ord rows stored child found parented =>
      cases appliedRight with
      | moveNode _ _ _ rowRight ordRight rowsRight storedRight childRight foundRight parentedRight =>
          have sameId : f id = id := fixed id List.mem_cons_self
          have sameParent : f parent = parent := fixed parent (List.mem_cons_of_mem _ List.mem_cons_self)
          obtain ⟨between, allocated, alikeBetween⟩ := alike.allocate (sound.spaced.without parent id) found
          rw [Option.map_some, sameId, sameParent, foundRight] at allocated
          obtain ⟨rfl, rfl⟩ := Prod.mk.inj (Except.ok.inj allocated)
          obtain ⟨other, storedOther, like⟩ := alike.row_of_left stored
          rw [sameId, storedRight] at storedOther
          obtain rfl := Option.some.inj storedOther
          have placed : Rows.Alike f
              (rows.insert id { row with parentId := some parent, ord := ordRight, updatedAt := now })
              (rowsRight.insert (f id)
                { rowRight with parentId := some parent, ord := ordRight, updatedAt := later }) :=
            alikeBetween.insert ⟨like.kind, like.title, like.url, congrArg some sameParent.symm, rfl⟩
          rw [sameId] at placed
          exact ⟨f, placed, fun _ _ => rfl⟩
  | deleteNode id recursive child =>
      cases appliedRight with
      | deleteNode _ _ childRight =>
          have removed := alike.remove id
          rw [fixed id List.mem_cons_self] at removed
          exact ⟨f, removed, fun _ _ => rfl⟩
  | idle id bookmark =>
      cases appliedRight with
      | idle _ bookmarkRight => exact ⟨f, alike, fun _ _ => rfl⟩
      | updateBookmark _ _ _ bookmarkRight given => exact absurd ⟨rfl, rfl⟩ given
  | updateBookmark id title url bookmark given =>
      cases appliedRight with
      | idle _ bookmarkRight => exact absurd ⟨rfl, rfl⟩ given
      | updateBookmark _ _ _ bookmarkRight givenRight =>
          have changed : Rows.Alike f
              (t.rows.modify id fun row =>
                { row with title := title.getD row.title, url := url.or row.url, updatedAt := now })
              (u.rows.modify (f id) fun row =>
                { row with title := title.getD row.title, url := url.or row.url, updatedAt := later }) :=
            alike.modify fun row other like =>
              ⟨like.kind, by rw [like.title], by rw [like.url], like.parentId, like.ord⟩
          rw [fixed id List.mem_cons_self] at changed
          exact ⟨f, changed, fun _ _ => rfl⟩
  | saveSession parent title tabs index ord rows between added =>
      cases appliedRight with
      | saveSession _ _ _ _ other rowsRight betweenRight addedRight =>
          rw [new_ids_session] at fresh freshRight
          rw [← fixed parent List.mem_cons_self] at addedRight
          have present := there parent List.mem_cons_self
          obtain ⟨g, alikeBetween, named, agree⟩ := added.alike alike closed sound.spaced addedRight present
            (next_id_absent fresh) (next_id_absent freshRight)
          obtain ⟨h, all, agreeAll⟩ := tabs_alike alikeBetween (added.closed closed present)
            added.contains_new (added.fresh fresh) (addedRight.fresh freshRight) 0
          rw [named] at all
          exact ⟨h, all, fun id inside => (agreeAll id (added.contains_old inside)).trans (agree id inside)⟩

theorem apply_all_alike {born : Int} {h : Equiv.Perm String} {source : IdSource} {p q : Projection}
    {total number : Nat} {batch : List Operation} (agrees : Agrees born now h source p t)
    (accepted : p.applyAll number batch = .ok q)
    (plain : ∀ operation ∈ batch, ∀ id ∈ operation.names, ¬ IsPending id) (names : Names h source now total)
    (room : q.pending ≤ total) (alike : Rows.Alike f t.rows u.rows)
    (fixed : ∀ id, ¬ IsPending id → h id = id → t.rows.contains id = true → f id = id)
    (fresh : Fresh t.rows (newIds t.ids now batch)) (freshRight : Fresh u.rows (newIds u.ids later batch))
    (done : t.applyAll now batch = .ok next) (doneRight : u.applyAll later batch = .ok v) :
    ∃ g, Rows.Alike g next.rows v.rows ∧
      ∀ id, ¬ IsPending id → h id = id → next.rows.contains id = true → g id = id := by
  induction batch generalizing p t u f number with
  | nil =>
      cases done
      cases doneRight
      exact ⟨f, alike, fixed⟩
  | cons operation rest ih =>
      obtain ⟨between, first, finished⟩ := bind_eq_ok.mp done
      obtain ⟨betweenRight, firstRight, finishedRight⟩ := bind_eq_ok.mp doneRight
      unfold Projection.applyAll at accepted
      split at accepted
      · cases accepted
      · rename_i middle applied
        have accepts := Projection.accepts_of_ok applied
        have plainFirst := plain operation List.mem_cons_self
        have counted := Projection.pending_of_apply_all accepted
        have counts := Projection.pending_of_accepts accepts
        have still : ∀ id ∈ operation.names, h id = id := fun id named =>
          agrees.fixed id (Projection.contains_of_accepts accepts named) (plainFirst id named)
        have there : ∀ id ∈ operation.names, t.rows.contains id = true := by
          intro id named
          obtain ⟨place, found⟩ := Keyed.contains_iff.mp (Projection.contains_of_accepts accepts named)
          obtain ⟨row, stored, _⟩ := agrees.mirrors.row found
          rw [still id named] at stored
          exact Keyed.contains_iff.mpr ⟨row, stored⟩
        obtain ⟨same, doneSame, agreesBetween⟩ := agrees.apply applied plainFirst names (by omega)
        rw [first] at doneSame
        obtain rfl := Except.ok.inj doneSame
        obtain ⟨g, alikeBetween, agree⟩ := apply_alike alike agrees.sound
          fresh.batch_left freshRight.batch_left there
          (fun id named => fixed id (plainFirst id named) (still id named) (there id named)) first firstRight
        refine ih agreesBetween accepted (fun other member => plain other (List.mem_cons_of_mem _ member))
          alikeBetween ?_ ((applied_of_ok first).fresh fresh) ((applied_of_ok firstRight).fresh freshRight) finished
          finishedRight
        intro id plainId unmoved inside
        have before : t.rows.contains id = true :=
          (applied_of_ok first).origin (agrees.unmade names (by omega) plainId unmoved) inside
        exact (agree id before).trans (fixed id plainId unmoved before)

end Transaction

end Bookmarks
