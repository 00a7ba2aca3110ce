import Bookmarks.Proofs.Store.Batch

/-!
What an operation that succeeded has done to the rows, one case for each operation (`applied_of_ok`), and how the
ids go on that are made for the nodes it adds.
-/
set_option autoImplicit false

namespace Bookmarks

namespace IdSource

theorem after_add (source : IdSource) (now : Int) (first second : Nat) :
    (source.after now first).after now second = source.after now (first + second) := by
  induction second with
  | zero => rfl
  | succ second ih =>
      rw [after, ih]
      rfl

theorem after_advance (source : IdSource) (now : Int) (count : Nat) :
    (source.advance now).after now count = source.after now (count + 1) := by
  rw [Nat.add_comm, ← after_add]
  rfl

theorem made_succ (source : IdSource) (now : Int) (count : Nat) :
    source.made now (count + 1) = (source.advance now).text :: (source.advance now).made now count := by
  simp only [made, List.range_succ_eq_map, List.map_cons, List.map_map, after_advance]
  rfl

theorem made_add (source : IdSource) (now : Int) (first second : Nat) :
    source.made now (first + second) = source.made now first ++ (source.after now first).made now second := by
  induction first generalizing source with
  | zero =>
      rw [Nat.zero_add]
      rfl
  | succ first ih =>
      rw [Nat.succ_add_eq_add_succ, Nat.add_succ, made_succ, made_succ, ih, after_advance]
      rfl

end IdSource

theorem new_ids_append (source : IdSource) (now : Int) (first second : List Operation) :
    newIds source now (first ++ second) =
      newIds source now first ++ newIds (source.after now (first.map Operation.adds).sum) now second := by
  rw [newIds, newIds, newIds, List.map_append, List.sum_append, IdSource.made_add]

variable {ω : Type}

namespace Fresh

variable {rows : Rows ω} {id : String} {ids front behind : List String}

theorem first (fresh : Fresh rows (id :: ids)) : rows.get? id = none := fresh.absent id List.mem_cons_self

theorem insert (fresh : Fresh rows (id :: ids)) (row : Row ω) : Fresh (rows.insert id row) ids := by
  obtain ⟨unused, nodup⟩ := List.nodup_cons.mp fresh.nodup
  refine ⟨nodup, fun other member => ?_⟩
  have different : id ≠ other := fun same => unused (same ▸ member)
  rw [Keyed.get?_insert, if_neg different]
  exact fresh.absent other (List.mem_cons_of_mem _ member)

theorem reord (fresh : Fresh rows ids) (parent : String) (left : Option String) (ordOf : String → ω) :
    Fresh (rows.reord parent left ordOf) ids := by
  refine ⟨fresh.nodup, fun other member => ?_⟩
  rw [Rows.get?_reord, fresh.absent other member]
  rfl

theorem left (fresh : Fresh rows (front ++ behind)) : Fresh rows front :=
  ⟨(List.nodup_append.mp fresh.nodup).1, fun id member => fresh.absent id (List.mem_append_left behind member)⟩

theorem batch_left {source : IdSource} {now : Int} {done rest : List Operation}
    (fresh : Fresh rows (newIds source now (done ++ rest))) : Fresh rows (newIds source now done) := by
  rw [new_ids_append] at fresh
  exact fresh.left

-- Ids that are new and no ids of the rows that are added stay new.
theorem right {after : Rows ω} (fresh : Fresh rows (front ++ behind))
    (origin : ∀ id, id ∉ front → after.contains id = true → rows.contains id = true) : Fresh after behind := by
  obtain ⟨_, nodup, apart⟩ := List.nodup_append.mp fresh.nodup
  refine ⟨nodup, fun id member => Keyed.not_contains_iff.mp fun there => ?_⟩
  have present := origin id (fun among => apart id among id member rfl) there
  exact Keyed.not_contains_iff.mpr (fresh.absent id (List.mem_append_right front member)) present

end Fresh

namespace Rows

-- Puts rows into the table one after another.
def putAll (rows : Rows ω) (entries : List (String × Row ω)) : Rows ω :=
  entries.foldl (fun rows entry => rows.insert entry.1 entry.2) rows

end Rows

namespace Transaction

variable {t next : Transaction ω} {now : Int} {id parent folder title : String} {kind : Kind} {url : Option String}
  {index : Option Int} {ord : ω}

theorem new_ids_one (t : Transaction ω) (now : Int) {operation : Operation} {count : Nat}
    (adds : operation.adds = count + 1) : newIds t.ids now [operation] = t.ids.made now (count + 1) := by
  rw [newIds, List.map_singleton, List.sum_singleton, adds]

theorem new_ids_session (t : Transaction ω) (now : Int) (parent title : String) (tabs : List Tab)
    (index : Option Int) :
    newIds t.ids now [.saveSession parent title tabs index] = t.ids.made now (tabs.length + 1) :=
  new_ids_one t now (Nat.add_comm 1 tabs.length)

theorem next_id_absent {count : Nat} (fresh : Fresh t.rows (t.ids.made now (count + 1))) :
    t.rows.get? (t.nextId now) = none := by
  rw [IdSource.made_succ] at fresh
  exact fresh.first

theorem update_cases {rows after : Rows ω} {isThere : Bool} {operation : Operation} {change : Row ω → Row ω}
    (done : rows.update isThere operation id change = .ok after) : isThere = true ∧ after =
    rows.modify id change := by
  unfold Rows.update at done
  split at done
  · rename_i there
    cases done
    exact ⟨there, rfl⟩
  · cases done

variable [SiblingOrd ω]

-- The rows of the tabs of a session, in the order in which they are added.
def tabRows (now : Int) (folder : String) : IdSource → Nat → List Tab → List (String × Row ω)
  | _, _, [] => []
  | source, number, tab :: rest =>
    ((source.advance now).text, newRow now folder .bookmark tab.title (some tab.url) (SiblingOrd.ofNat number)) ::
      tabRows now folder (source.advance now) (number + 1) rest

theorem tab_row_ids (now : Int) (folder : String) (source : IdSource) (number : Nat) (tabs : List Tab) :
    (tabRows (ω := ω) now folder source number tabs).map (·.1) = source.made now tabs.length := by
  induction tabs generalizing source number with
  | nil => rfl
  | cons tab rest ih => rw [tabRows, List.map_cons, ih, List.length_cons, IdSource.made_succ]

-- One node is added, under the next id.
structure Added (t : Transaction ω) (now : Int) (parent : String) (kind : Kind) (title : String) (url : Option String)
    (index : Option Int) (ord : ω) (rows : Rows ω) (next : Transaction ω) : Prop where
  found : t.rows.allocate parent index none = .ok (ord, rows)
  result : next = ⟨rows.insert (t.nextId now) (newRow now parent kind title url ord), t.ids.advance now⟩
  parented : next.rows.contains parent = true

inductive Applied (t : Transaction ω) (now : Int) : Operation → Transaction ω → Prop
  | addFolder (parent title : String) (index : Option Int) (ord : ω) (rows : Rows ω) (next : Transaction ω)
      (added : Added t now parent .folder title none index ord rows next) :
      Applied t now (.addFolder parent title index) next
  | addBookmark (parent title url : String) (index : Option Int) (ord : ω) (rows : Rows ω) (next : Transaction ω)
      (added : Added t now parent .bookmark title (some url) index ord rows next) :
      Applied t now (.addBookmark parent title url index) next
  | renameNode (id title : String) (child : t.rows.isChild id = true) :
      Applied t now (.renameNode id title)
        { t with rows := t.rows.modify id fun row => { row with title, updatedAt := now } }
  | moveNode (id parent : String) (index : Option Int) (row : Row ω) (ord : ω) (rows : Rows ω)
      (stored : t.rows.get? id = some row) (child : row.parentId.isSome = true)
      (found : t.rows.allocate parent index (some id) = .ok (ord, rows)) (parented : t.rows.contains parent = true) :
      Applied t now (.moveNode id parent index)
        { t with rows := rows.insert id { row with parentId := some parent, ord, updatedAt := now } }
  | deleteNode (id : String) (recursive : Bool) (child : t.rows.isChild id = true) :
      Applied t now (.deleteNode id recursive) { t with rows := t.rows.removeAll [id] }
  | idle (id : String) (bookmark : t.rows.isBookmark id = true) : Applied t now (.updateBookmark id none none) t
  | updateBookmark (id : String) (title url : Option String) (bookmark : t.rows.isBookmark id = true)
      (given : ¬ (title = none ∧ url = none)) :
      Applied t now (.updateBookmark id title url)
        { t with rows := t.rows.modify id fun row =>
          { row with title := title.getD row.title, url := url.or row.url, updatedAt := now } }
  | saveSession (parent title : String) (tabs : List Tab) (index : Option Int) (ord : ω) (rows : Rows ω)
      (between : Transaction ω) (added : Added t now parent .folder title none index ord rows between) :
      Applied t now (.saveSession parent title tabs index)
        ⟨between.rows.putAll (tabRows now (t.nextId now) between.ids 0 tabs), between.ids.after now tabs.length⟩

variable [LinearOrder ω] [AscendingOrd ω]

theorem put_cases {rows after : Rows ω} {row : Row ω} (below : row.parentId = some parent)
    (done : rows.put id row = .ok after) : after = rows.insert id row ∧ after.contains parent = true := by
  rw [Rows.put_exact] at done
  split at done
  · rename_i parented
    cases done
    exact ⟨rfl, by simpa [below] using parented⟩
  · cases done

theorem insert_new_cases (done : t.insertNew now parent kind title url ord = .ok (id, next)) :
    id = t.nextId now ∧
      next = ⟨t.rows.insert (t.nextId now) (newRow now parent kind title url ord), t.ids.advance now⟩ ∧
      next.rows.contains parent = true := by
  obtain ⟨rows, put, result⟩ := bind_eq_ok.mp done
  obtain ⟨stored, parented⟩ := put_cases rfl put
  have made : (t.nextId now, Transaction.mk rows (t.ids.advance now)) = (id, next) := Except.ok.inj result
  obtain ⟨named, same⟩ := Prod.mk.inj made
  rw [← same]
  refine ⟨named.symm, ?_, parented⟩
  rw [stored]
  rfl

theorem add_cases (done : t.add now parent kind title url index = .ok (id, next)) :
    id = t.nextId now ∧ ∃ ord rows, Added t now parent kind title url index ord rows next := by
  obtain ⟨⟨ord, rows⟩, found, inserted⟩ := bind_eq_ok.mp done
  obtain ⟨named, result, parented⟩ := insert_new_cases inserted
  exact ⟨named, ord, rows, found, result, parented⟩

theorem add_tabs_cases {number : Nat} {tabs : List Tab} (done : t.addTabs now folder number tabs = .ok next) :
    next = ⟨t.rows.putAll (tabRows now folder t.ids number tabs), t.ids.after now tabs.length⟩ := by
  induction tabs generalizing t number with
  | nil =>
      cases done
      rfl
  | cons tab rest ih =>
      obtain ⟨⟨added, between⟩, inserted, others⟩ := bind_eq_ok.mp done
      obtain ⟨_, rfl, _⟩ := insert_new_cases inserted
      rw [ih others, List.length_cons, ← IdSource.after_advance]
      rfl

-- The moved row is found among the rows after the allocation, but that is not about it.
theorem move_cases {rows after : Rows ω} {operation : Operation}
    (done : move rows now operation id parent index = .ok after) :
    ∃ row ord between, rows.get? id = some row ∧ row.parentId.isSome = true ∧
      rows.allocate parent index (some id) = .ok (ord, between) ∧ rows.contains parent = true ∧
      after = between.insert id { row with parentId := some parent, ord, updatedAt := now } := by
  obtain ⟨⟨ord, between⟩, found, rest⟩ := bind_eq_ok.mp done
  obtain ⟨ordOf, rfl⟩ := (Rows.reordered_of_ok found).reordered
  simp only [Rows.get?_reord] at rest
  cases stored : rows.get? id with
  | none => simp [stored] at rest
  | some row =>
      simp only [stored, Option.map_some, ne_eq, not_true_eq_false, and_false, if_false] at rest
      split at rest
      · rename_i child
        obtain ⟨rfl, parented⟩ := put_cases rfl rest
        refine ⟨row, ord, _, rfl, child, found, ?_, rfl⟩
        rw [Keyed.contains, Keyed.get?_insert] at parented
        by_cases same : id = parent
        · exact Keyed.contains_iff.mpr ⟨row, same ▸ stored⟩
        · rw [if_neg same, Rows.get?_reord, Option.isSome_map] at parented
          exact parented
      · cases rest

theorem applied_of_ok {operation : Operation} (done : t.apply now operation = .ok next) :
    Applied t now operation next := by
  cases operation with
  | addFolder parent title index =>
      obtain ⟨⟨id, between⟩, added, result⟩ := bind_eq_ok.mp done
      cases result
      obtain ⟨_, ord, rows, added⟩ := add_cases added
      exact .addFolder parent title index ord rows _ added
  | addBookmark parent title url index =>
      obtain ⟨⟨id, between⟩, added, result⟩ := bind_eq_ok.mp done
      cases result
      obtain ⟨_, ord, rows, added⟩ := add_cases added
      exact .addBookmark parent title url index ord rows _ added
  | renameNode id title =>
      obtain ⟨rows, updated, result⟩ := bind_eq_ok.mp done
      cases result
      obtain ⟨child, rfl⟩ := update_cases updated
      exact .renameNode id title child
  | moveNode id parent index =>
      obtain ⟨after, moved, result⟩ := bind_eq_ok.mp done
      cases result
      obtain ⟨row, ord, rows, stored, child, found, parented, rfl⟩ := move_cases moved
      exact .moveNode id parent index row ord rows stored child found parented
  | deleteNode id recursive =>
      by_cases child : t.rows.isChild id = true
      · simp only [apply, child, if_true] at done
        cases done
        exact .deleteNode id recursive child
      · simp only [apply, child] at done
        cases done
  | updateBookmark id title url =>
      by_cases given : title = none ∧ url = none
      · obtain ⟨rfl, rfl⟩ := given
        by_cases bookmark : t.rows.isBookmark id = true
        · simp only [apply, bookmark, if_true] at done
          cases done
          exact .idle id bookmark
        · simp only [apply, bookmark] at done
          cases done
      · rw [apply] at done
        · obtain ⟨rows, updated, result⟩ := bind_eq_ok.mp done
          cases result
          obtain ⟨bookmark, rfl⟩ := update_cases updated
          exact .updateBookmark id title url bookmark given
        · exact fun noTitle noUrl => given ⟨noTitle, noUrl⟩
  | saveSession parent title tabs index =>
      obtain ⟨⟨id, between⟩, added, tabbed⟩ := bind_eq_ok.mp done
      obtain ⟨rfl, ord, rows, added⟩ := add_cases added
      rw [add_tabs_cases tabbed]
      exact .saveSession parent title tabs index ord rows between added

end Transaction

end Bookmarks
