import Bookmarks.Proofs.Store.Additions

/-!
What an operation changes in the rows, and that it leaves everything else as it was (`frame_law`).
-/
set_option autoImplicit false

namespace Bookmarks

open Relation (ReflTransGen)

-- The node that the operation moves.
def Operation.moved? : Operation → Option String
  | .moveNode nodeId _ _ => some nodeId
  | _ => none

variable {ω : Type}

namespace Rows

-- Rows are added. Of the others at most the ords of the parent's children change.
structure Adds (before after : Rows ω) (parent : String) (entries : List (String × Row ω)) : Prop where
  distinct : (entries.map (·.1)).Nodup
  new : ∀ entry ∈ entries, before.get? entry.1 = none ∧ after.get? entry.1 = some entry.2
  old : ∀ id row, before.get? id = some row → ∃ ord, after.get? id = some { row with ord } ∧
    (row.parentId ≠ some parent → ord = row.ord)
  only : ∀ id, before.get? id = none → id ∉ entries.map (·.1) → after.get? id = none

-- One row changes, and no other.
structure Changes (before after : Rows ω) (id : String) (change : Row ω → Row ω) : Prop where
  changed : ∃ row, before.get? id = some row ∧ after.get? id = some (change row)
  others : ∀ other, other ≠ id → after.get? other = before.get? other

-- One row gets a parent, an ord and a time. Of the others at most the ords of the new parent's children change.
structure Moves (before after : Rows ω) (id parent : String) (now : Int) : Prop where
  moved : ∃ row ord, before.get? id = some row ∧
    after.get? id = some { row with parentId := some parent, ord, updatedAt := now }
  old : ∀ other row, other ≠ id → before.get? other = some row → ∃ ord, after.get? other = some { row with ord } ∧
    (row.parentId ≠ some parent → ord = row.ord)
  only : ∀ other, before.get? other = none → after.get? other = none

-- A row goes with everything below it, and nothing else does.
structure Removes (before after : Rows ω) (id : String) : Prop where
  there : before.contains id = true
  gone : ∀ other, ReflTransGen (Under before) other id → after.get? other = none
  kept : ∀ other, ¬ ReflTransGen (Under before) other id → after.get? other = before.get? other

-- Whether a row is neither added nor deleted nor moved.
def stays (before after : Rows ω) (operation : Operation) (id : String) : Bool :=
  before.contains id && after.contains id && operation.moved? != some id

-- What is true of the rows that were there and still are, whatever the operation.
structure Survives [SiblingOrd ω] (before after : Rows ω) (operation : Operation) : Prop where
  rows : ∀ id old new, before.get? id = some old → after.get? id = some new →
    new.kind = old.kind ∧ new.createdAt = old.createdAt
  order : ∀ parent, (after.childIds parent).filter (before.stays after operation) =
    (before.childIds parent).filter (before.stays after operation)

variable {before after : Rows ω} {id parent : String} {operation : Operation} {entries : List (String × Row ω)}
  {change : Row ω → Row ω} {now : Int}

theorem filter_without {stays : String → Bool} (leaves : stays id = false) (children : List String) :
    (children.filter (· != id)).filter stays = children.filter stays := by
  rw [List.filter_filter]
  apply List.filter_congr
  intro child _
  by_cases same : child = id
  · simp [same, leaves]
  · simp [same]

theorem stays_absent (missing : before.get? id = none) : before.stays after operation id = false := by
  simp [stays, Keyed.contains, missing]

theorem stays_gone (missing : after.get? id = none) : before.stays after operation id = false := by
  simp [stays, Keyed.contains, missing]

theorem stays_moved (moved : operation.moved? = some id) : before.stays after operation id = false := by
  simp [stays, moved]

theorem Adds.survives (adds : before.Adds after parent entries) {old new : Row ω} (stored : before.get? id = some old)
    (found : after.get? id = some new) : new.kind = old.kind ∧ new.createdAt = old.createdAt := by
  obtain ⟨ord, kept, _⟩ := adds.old id old stored
  rw [kept] at found
  rw [← Option.some.inj found]
  exact ⟨rfl, rfl⟩

theorem Changes.survives (changes : before.Changes after id change)
    (retains : ∀ row, (change row).kind = row.kind ∧ (change row).createdAt = row.createdAt) {other : String}
    {old new : Row ω} (stored : before.get? other = some old) (found : after.get? other = some new) :
    new.kind = old.kind ∧ new.createdAt = old.createdAt := by
  by_cases here : other = id
  · subst here
    obtain ⟨row, storedRow, changed⟩ := changes.changed
    rw [stored] at storedRow
    rw [found] at changed
    rw [Option.some.inj changed, Option.some.inj storedRow]
    exact retains row
  · rw [changes.others other here, stored] at found
    rw [Option.some.inj found]
    exact ⟨rfl, rfl⟩

theorem Moves.survives (moves : before.Moves after id parent now) {other : String} {old new : Row ω}
    (stored : before.get? other = some old) (found : after.get? other = some new) :
    new.kind = old.kind ∧ new.createdAt = old.createdAt := by
  by_cases here : other = id
  · subst here
    obtain ⟨row, ord, storedRow, moved⟩ := moves.moved
    rw [stored] at storedRow
    rw [found] at moved
    rw [Option.some.inj moved, Option.some.inj storedRow]
    exact ⟨rfl, rfl⟩
  · obtain ⟨ord, kept, _⟩ := moves.old other old here stored
    rw [kept] at found
    rw [← Option.some.inj found]
    exact ⟨rfl, rfl⟩

theorem Removes.survives (removes : before.Removes after id) {other : String} {old new : Row ω}
    (stored : before.get? other = some old) (found : after.get? other = some new) :
    new.kind = old.kind ∧ new.createdAt = old.createdAt := by
  have kept : ¬ ReflTransGen (Under before) other id := by
    intro doomed
    rw [removes.gone other doomed] at found
    cases found
  rw [removes.kept other kept, stored] at found
  rw [Option.some.inj found]
  exact ⟨rfl, rfl⟩

theorem changes_of_modify {rows : Rows ω} {id : String} (there : rows.contains id = true)
    (change : Row ω → Row ω) : rows.Changes (rows.modify id change) id change := by
  obtain ⟨row, stored⟩ := Keyed.contains_iff.mp there
  refine ⟨⟨row, stored, by rw [Keyed.get?_modify, if_pos rfl, stored]; rfl⟩, fun other different => ?_⟩
  rw [Keyed.get?_modify, if_neg different.symm]

theorem contains_of_any {rows : Rows ω} {id : String} {test : Row ω → Bool}
    (there : (rows.get? id).any test = true) : rows.contains id = true := by
  obtain ⟨row, stored, _⟩ := (Option.any_eq_true _ _).mp there
  exact Keyed.contains_iff.mpr ⟨row, stored⟩

theorem removes_of_remove {rows : Rows ω} {id : String} (there : rows.contains id = true) :
    rows.Removes (rows.removeAll [id]) id := by
  refine ⟨there, fun other below => ?_, fun other apart => ?_⟩
  · exact (get?_removeAll rows [id] other).1 (doomed_one_iff.mpr ⟨there, below⟩)
  · exact (get?_removeAll rows [id] other).2 fun doomed => apart (doomed_one_iff.mp doomed).2

end Rows

namespace Transaction

def sessionRows [SiblingOrd ω] (t : Transaction ω) (now : Int) (parent title : String) (ord : ω) (tabs : List Tab) :
    List (String × Row ω) :=
  (t.nextId now, newRow now parent .folder title none ord) ::
    tabRows now (t.nextId now) (t.ids.advance now) 0 tabs

-- What each operation does to the rows.
def Effect [SiblingOrd ω] (t : Transaction ω) (now : Int) (after : Rows ω) : Operation → Prop
  | .addFolder parent title _ =>
    ∃ ord, t.rows.Adds after parent [(t.nextId now, newRow now parent .folder title none ord)]
  | .addBookmark parent title url _ =>
    ∃ ord, t.rows.Adds after parent [(t.nextId now, newRow now parent .bookmark title (some url) ord)]
  | .renameNode id title => t.rows.Changes after id fun row => { row with title, updatedAt := now }
  | .moveNode id parent _ => t.rows.Moves after id parent now
  | .deleteNode id _ => t.rows.Removes after id
  | .updateBookmark _ none none => after = t.rows
  | .updateBookmark id title url =>
    t.rows.Changes after id fun row =>
      { row with title := title.getD row.title, url := url.or row.url, updatedAt := now }
  | .saveSession parent title tabs _ =>
    (∃ ord, t.rows.Adds after parent (t.sessionRows now parent title ord tabs)) ∧
      after.childIds (t.nextId now) = (tabRows (ω := ω) now (t.nextId now) (t.ids.advance now) 0 tabs).map (·.1)

variable [LinearOrder ω] [SiblingOrd ω] [AscendingOrd ω] {t next : Transaction ω} {now : Int} {operation : Operation}
  {parent title : String} {kind : Kind} {url : Option String} {index : Option Int} {ord : ω} {rows : Rows ω} {born : Int}

theorem Added.adds (added : Added t now parent kind title url index ord rows next)
    (absent : t.rows.get? (t.nextId now) = none) :
    t.rows.Adds next.rows parent [(t.nextId now, newRow now parent kind title url ord)] := by
  have reordered := Rows.reordered_of_ok added.found
  rw [added.result]
  refine ⟨by simp, ?new, ?old, ?only⟩
  case new =>
    intro entry member
    rw [List.mem_singleton.mp member]
    exact ⟨absent, by simp [Keyed.get?_insert]⟩
  case old =>
    intro id row stored
    have different : id ≠ t.nextId now := by
      rintro rfl
      rw [absent] at stored
      cases stored
    exact Rows.get?_place _ reordered different stored
  case only =>
    intro id missing unlisted
    have different : t.nextId now ≠ id := fun same => unlisted (by simp [same])
    show Keyed.get? (Keyed.insert rows _ _) id = none
    rw [Keyed.get?_insert, if_neg different]
    exact reordered.get?_eq_none missing

omit [LinearOrder ω] [SiblingOrd ω] [AscendingOrd ω] in
-- More rows are added that are new as well.
theorem adds_more {before between : Rows ω} {entries more : List (String × Row ω)}
    (adds : before.Adds between parent entries) (distinct : ((entries ++ more).map (·.1)).Nodup)
    (absent : ∀ id ∈ more.map (·.1), between.get? id = none) :
    before.Adds (between.putAll more) parent (entries ++ more) := by
  have listed := distinct
  rw [List.map_append, List.nodup_append] at listed
  obtain ⟨_, nodup, apart⟩ := listed
  have found : ∀ id, (between.putAll more).get? id = (Keyed.lookup id more).or (between.get? id) :=
    Rows.get?_put_all nodup
  have unlisted : ∀ id, id ∉ more.map (·.1) → (between.putAll more).get? id = between.get? id := by
    intro id outside
    have missing : Keyed.lookup id more = none := Keyed.lookup_eq_none_iff.mpr fun row member =>
      outside (List.mem_map.mpr ⟨(id, row), member, rfl⟩)
    rw [found, missing, Option.none_or]
  refine ⟨distinct, ?new, ?old, ?only⟩
  case new =>
    intro entry member
    rcases List.mem_append.mp member with first | later
    · obtain ⟨missing, stored⟩ := adds.new entry first
      refine ⟨missing, (unlisted entry.1 fun among => ?_).trans stored⟩
      exact apart entry.1 (List.mem_map_of_mem first) entry.1 among rfl
    · have among := List.mem_map_of_mem (f := (·.1)) later
      constructor
      · cases stored : before.get? entry.1 with
        | none => rfl
        | some row =>
            obtain ⟨ord, kept, _⟩ := adds.old entry.1 row stored
            rw [absent entry.1 among] at kept
            cases kept
      · rw [found, (Keyed.lookup_iff_of_nodup nodup).mpr later, Option.some_or]
  case old =>
    intro id row stored
    obtain ⟨ord, kept, same⟩ := adds.old id row stored
    refine ⟨ord, (unlisted id fun among => ?_).trans kept, same⟩
    rw [absent id among] at kept
    cases kept
  case only =>
    intro id missing outside
    rw [List.map_append, List.mem_append, not_or] at outside
    exact (unlisted id outside.2).trans (adds.only id missing outside.1)

theorem saved_adds {tabs : List Tab} {between : Transaction ω}
    (added : Added t now parent .folder title none index ord rows between)
    (fresh : Fresh t.rows (t.ids.made now (tabs.length + 1))) :
    t.rows.Adds (between.rows.putAll (tabRows now (t.nextId now) between.ids 0 tabs)) parent
      (t.sessionRows now parent title ord tabs) := by
  have later := added.fresh fresh
  have source : between.ids = t.ids.advance now := by rw [added.result]
  have ids := tab_row_ids (ω := ω) now (t.nextId now) between.ids 0 tabs
  have adds := added.adds (next_id_absent fresh)
  rw [source] at later ids ⊢
  refine adds_more adds ?_ ?_
  · rw [List.map_append, ids]
    have nodup := fresh.nodup
    rw [IdSource.made_succ] at nodup
    exact nodup
  · rw [ids]
    exact later.absent

-- Only the folder's own rows are below it, so the tabs are all its children.
theorem saved_lists {tabs : List Tab} {between : Transaction ω} (sound : Rows.Sound born t.rows)
    (added : Added t now parent .folder title none index ord rows between)
    (fresh : Fresh t.rows (t.ids.made now (tabs.length + 1))) (different : parent ≠ t.nextId now) (other : String) :
    (between.rows.putAll (tabRows now (t.nextId now) between.ids 0 tabs)).childIds other =
      if other = t.nextId now then between.ids.made now tabs.length else between.rows.childIds other := by
  have absent := next_id_absent fresh
  have later := added.fresh fresh
  have childless : between.rows.childIds (t.nextId now) = [] := by
    rw [added.child_ids_elsewhere absent different.symm]
    exact Rows.child_ids_absent sound absent
  by_cases here : other = t.nextId now
  · have empty : between.rows.siblings (t.nextId now) none = [] := List.map_eq_nil_iff.mp childless
    rw [if_pos here, here, child_ids_tabs later (by simp [empty]), childless, List.nil_append]
  · rw [if_neg here, child_ids_tabs_elsewhere later here]

omit [LinearOrder ω] [AscendingOrd ω] in
theorem moves_of_place {id : String} {row : Row ω} (stored : t.rows.get? id = some row)
    (reordered : Rows.Reordered t.rows parent (some id) rows) :
    t.rows.Moves (rows.insert id { row with parentId := some parent, ord, updatedAt := now }) id parent now := by
  refine ⟨⟨row, ord, stored, by rw [Keyed.get?_insert, if_pos rfl]⟩, ?old, ?only⟩
  case old =>
    intro other old different found
    exact Rows.get?_place _ reordered different found
  case only =>
    intro other missing
    have different : id ≠ other := by
      rintro rfl
      rw [stored] at missing
      cases missing
    rw [Keyed.get?_insert, if_neg different]
    exact reordered.get?_eq_none missing

theorem added_survives (added : Added t now parent kind title url index ord rows next)
    (absent : t.rows.get? (t.nextId now) = none) : t.rows.Survives next.rows operation := by
  refine ⟨fun _ _ _ stored found => (added.adds absent).survives stored found, fun other => ?_⟩
  rw [← added.child_ids_others absent other, Rows.filter_without (Rows.stays_absent absent)]

theorem saved_survives {tabs : List Tab} {between : Transaction ω} (sound : Rows.Sound born t.rows)
    (added : Added t now parent .folder title none index ord rows between)
    (fresh : Fresh t.rows (t.ids.made now (tabs.length + 1))) (different : parent ≠ t.nextId now) :
    t.rows.Survives (between.rows.putAll (tabRows now (t.nextId now) between.ids 0 tabs)) operation := by
  have absent := next_id_absent fresh
  refine ⟨fun _ _ _ stored found => (saved_adds added fresh).survives stored found, fun other => ?_⟩
  rw [saved_lists sound added fresh different]
  split
  · rename_i here
    rw [here, Rows.child_ids_absent sound absent, List.filter_nil, List.filter_eq_nil_iff]
    intro tab member
    have source : between.ids = t.ids.advance now := by rw [added.result]
    rw [source] at member
    have missing : t.rows.get? tab = none := fresh.absent tab (by
      rw [IdSource.made_succ]
      exact List.mem_cons_of_mem _ member)
    simp [Rows.stays_absent missing]
  · rw [← added.child_ids_others absent other, Rows.filter_without (Rows.stays_absent absent)]

theorem changed_survives {rows : Rows ω} {id : String} (there : rows.contains id = true) {change : Row ω → Row ω}
    (retains : ∀ row, Rows.Retains row (change row)) (made : ∀ row, (change row).createdAt = row.createdAt) :
    rows.Survives (rows.modify id change) operation := by
  refine ⟨fun other _ _ stored found => ?_, fun other => ?_⟩
  · exact (Rows.changes_of_modify there change).survives (fun row => ⟨(retains row).kind, made row⟩) stored found
  · rw [Rows.childIds, Rows.siblings_modify retains, Rows.childIds]

theorem moved_survives {id : String} {row : Row ω} (stored : t.rows.get? id = some row)
    (reordered : Rows.Reordered t.rows parent (some id) rows) :
    t.rows.Survives (rows.insert id { row with parentId := some parent, ord, updatedAt := now })
      (.moveNode id parent index) := by
  refine ⟨fun _ _ _ old found => (moves_of_place stored reordered).survives old found, fun other => ?_⟩
  have leaves : ∀ after, t.rows.stays after (.moveNode id parent index) id = false := fun _ =>
    Rows.stays_moved rfl
  rw [← Rows.filter_without (leaves _), Rows.child_ids_others reordered, Rows.filter_without (leaves _)]

theorem removed_survives {rows : Rows ω} {id : String} (there : rows.contains id = true) :
    rows.Survives (rows.removeAll [id]) operation := by
  have removes := Rows.removes_of_remove there
  refine ⟨fun _ _ _ stored found => removes.survives stored found, fun parent => ?_⟩
  obtain ⟨gone, kept⟩ := Rows.child_ids_remove there parent
  by_cases doomed : Rows.Doomed rows [id] parent
  · rw [gone doomed, List.filter_nil, eq_comm, List.filter_eq_nil_iff]
    intro child member
    have below := doomed.below (Rows.mem_child_ids.mp member)
    simp [Rows.stays_gone ((Rows.get?_removeAll rows [id] child).1 below)]
  · rw [kept doomed]
    exact Rows.filter_without (Rows.stays_gone (removes.gone id .refl)) _

/-- An operation adds, changes, moves or removes exactly the rows that it is about. The others keep everything but
their ords, which only the children of a parent lose that gets a node; their order does not change. The ords may be of
any ordered type in which the whole numbers ascend, whatever is computed between two of them. -/
theorem frame_law (sound : Rows.Sound born t.rows) (fresh : Fresh t.rows (newIds t.ids now [operation]))
    (unguessed : ∀ id ∈ operation.names, id ∉ newIds t.ids now [operation])
    (done : t.apply now operation = .ok next) :
    Effect t now next.rows operation ∧ t.rows.Survives next.rows operation := by
  cases applied_of_ok done with
  | addFolder parent title index ord rows next added =>
      rw [new_ids_one t now rfl] at fresh
      have absent := next_id_absent fresh
      exact ⟨⟨ord, added.adds absent⟩, added_survives added absent⟩
  | addBookmark parent title url index ord rows next added =>
      rw [new_ids_one t now rfl] at fresh
      have absent := next_id_absent fresh
      exact ⟨⟨ord, added.adds absent⟩, added_survives added absent⟩
  | renameNode id title child =>
      have there := Rows.contains_of_any child
      exact ⟨Rows.changes_of_modify there _, changed_survives there (fun _ => ⟨rfl, rfl, rfl⟩) fun _ => rfl⟩
  | moveNode id parent index row ord rows stored child found parented =>
      have reordered := Rows.reordered_of_ok found
      exact ⟨moves_of_place stored reordered, moved_survives stored reordered⟩
  | deleteNode id recursive child =>
      have there := Rows.contains_of_any child
      exact ⟨Rows.removes_of_remove there, removed_survives there⟩
  | idle id bookmark =>
      refine ⟨rfl, fun _ _ _ stored found => ?_, fun _ => rfl⟩
      rw [stored] at found
      rw [Option.some.inj found]
      exact ⟨rfl, rfl⟩
  | updateBookmark id title url bookmark given =>
      have there := Rows.contains_of_any bookmark
      have changes := Rows.changes_of_modify there fun row =>
        { row with title := title.getD row.title, url := url.or row.url, updatedAt := now }
      refine ⟨?_, changed_survives there (fun _ => ⟨rfl, rfl, rfl⟩) fun _ => rfl⟩
      rw [Effect]
      · exact changes
      · exact fun noTitle noUrl => given ⟨noTitle, noUrl⟩
  | saveSession parent title tabs index ord rows between added =>
      rw [new_ids_session] at fresh unguessed
      have different : parent ≠ t.nextId now := by
        intro same
        apply unguessed parent (List.mem_singleton_self parent)
        rw [same, IdSource.made_succ]
        exact List.mem_cons_self
      refine ⟨⟨⟨ord, saved_adds added fresh⟩, ?_⟩, saved_survives sound added fresh different⟩
      have source : between.ids = t.ids.advance now := by rw [added.result]
      exact (saved_lists sound added fresh different (t.nextId now)).trans
        ((if_pos rfl).trans (by rw [source, tab_row_ids]))

def twoTabs : Operation := .saveSession "root" "S" [⟨"T", "http://t/"⟩, ⟨"U", "http://u/"⟩] none

theorem frame_law_two_tabs :
    ∃ next, (Transaction.mk (Rows.withRoot ∅ 0 : Rows ℚ) {}).apply 1 twoTabs = .ok next ∧
      next.rows.childIds "00000000000170000000000000000001" =
        ["00000000000170000000000000000002", "00000000000170000000000000000003"] ∧
      next.rows.get? "root" = some (Rows.rootRow 0) := by
  have applies : ((Transaction.mk (Rows.withRoot ∅ 0 : Rows ℚ) {}).apply 1 twoTabs).isOk = true := by decide +kernel
  cases done : (Transaction.mk (Rows.withRoot ∅ 0 : Rows ℚ) {}).apply 1 twoTabs with
  | error failure =>
      rw [done] at applies
      cases applies
  | ok next =>
      obtain ⟨⟨⟨ord, adds⟩, tabs⟩, survives⟩ := frame_law (Rows.sound_root 0) ⟨by decide +kernel, by decide +kernel⟩
        (by decide +kernel) done
      obtain ⟨kept, root, same⟩ := adds.old "root" (Rows.rootRow 0) rfl
      have folder : (Transaction.mk (Rows.withRoot ∅ 0 : Rows ℚ) {}).nextId 1 =
        "00000000000170000000000000000001" := by
        decide +kernel
      rw [folder] at tabs
      refine ⟨next, rfl, tabs.trans (by decide +kernel), ?_⟩
      rw [root, same (by decide)]

end Transaction

end Bookmarks
