import Bookmarks.Proofs.Store.Additions
import Bookmarks.Proofs.Store.Reload

/-!
Where a node stands that is added or moved: at its index among the other children, whatever ords they have
(`position_law`).
-/
set_option autoImplicit false

namespace Bookmarks

-- A node, and the place below a parent that is meant for it.
structure Destination where
  node : String
  parent : String
  index : Option Int

-- Where an operation puts a node; the id is the next one that is made.
def Operation.destination? (id : String) : Operation → Option Destination
  | .addFolder parent _ index => some ⟨id, parent, index⟩
  | .addBookmark parent _ _ index => some ⟨id, parent, index⟩
  | .moveNode node parent index => some ⟨node, parent, index⟩
  | .saveSession parent _ _ index => some ⟨id, parent, index⟩
  | _ => none

namespace Destination

variable {destination : Destination} {children : List String}

def others (destination : Destination) (children : List String) : List String :=
  children.filter (· != destination.node)

def position (destination : Destination) (children : List String) : Nat :=
  Order.insertionPosition (destination.others children).length destination.index

-- The children with the node at its place.
def placed (destination : Destination) (children : List String) : List String :=
  (destination.others children).insertIdx (destination.position children) destination.node

theorem position_le (destination : Destination) (children : List String) :
    destination.position children ≤ (destination.others children).length :=
  Order.insertion_position_le _ _

theorem others_placed (destination : Destination) (children : List String) :
    destination.others (destination.placed children) = destination.others children := by
  have unlisted : ∀ other ∈ destination.others children, (other != destination.node) = true := fun other member =>
    (List.mem_filter.mp member).2
  rw [placed, Rows.insert_idx_split _ _ _ (destination.position_le children), others, List.filter_append,
    List.filter_cons_of_neg (by simp)]
  rw [← List.filter_append, List.take_append_drop, List.filter_eq_self.mpr unlisted]

-- Placing a node once more changes nothing.
theorem placed_placed (destination : Destination) (children : List String) :
    destination.placed (destination.placed children) = destination.placed children := by
  have same := destination.others_placed children
  rw [placed, position, same]
  rfl

theorem get?_placed {index : Int} (given : destination.index = some index) (low : 0 ≤ index)
    (high : index ≤ (destination.others children).length) :
    (destination.placed children)[index.toNat]? = some destination.node := by
  have position : destination.position children = index.toNat := by
    rw [Destination.position, given, Order.insertionPosition]
    split <;> omega
  rw [placed, position, List.getElem?_insertIdx_self]
  exact if_pos (by omega)

theorem last_placed (given : destination.index = none) :
    (destination.placed children).getLast? = some destination.node := by
  rw [placed, position, given, Order.insertionPosition, List.insertIdx_length_self, List.getLast?_concat]

end Destination

-- The children of a parent after a node was put among them.
structure PlacedAt (before after : List String) (destination : Destination) : Prop where
  list : after = destination.placed before
  within : ∀ index, destination.index = some index → 0 ≤ index → index ≤ (destination.others before).length →
    after[index.toNat]? = some destination.node
  last : destination.index = none → after.getLast? = some destination.node

theorem placed_at (before : List String) (destination : Destination) :
    PlacedAt before (destination.placed before) destination :=
  ⟨rfl, fun _ given low high => Destination.get?_placed given low high, Destination.last_placed⟩

variable {ω : Type} [LinearOrder ω] [SiblingOrd ω] [RoomyOrd ω]

namespace Rows

variable {rows after : Rows ω} {parent : String} {left : Option String} {index : Option Int} {ord : ω}

-- Nothing but ords changes, and these only among the children of the parent, which keep their order.
structure Regapped (rows after : Rows ω) (parent : String) (left : Option String) : Prop where
  kept : ∀ id row, rows.get? id = some row → ∃ ord, after.get? id = some { row with ord } ∧
    (¬ (row.parentId = some parent ∧ some id ≠ left) → ord = row.ord)
  absent : ∀ id, rows.get? id = none → after.get? id = none
  order : (after.siblings parent left).map (·.1) = (rows.siblings parent left).map (·.1)
  elsewhere : ∀ other, other ≠ parent → after.childIds other = rows.childIds other

theorem Allocated.regapped (allocated : Allocated rows parent index left ord after) :
    Regapped rows after parent left := by
  obtain ⟨ordOf, reordered⟩ := allocated.reordered
  refine ⟨?kept, fun id missing => allocated.get?_eq_none missing, allocated.kept, ?elsewhere⟩
  case kept =>
    intro id row stored
    rw [reordered, get?_reord, stored, Option.map_some]
    split
    · rename_i sibling
      exact ⟨ordOf id, rfl, fun otherwise => absurd sibling otherwise⟩
    · exact ⟨row.ord, rfl, fun _ => rfl⟩
  case elsewhere =>
    intro other different
    rw [reordered, childIds, siblings_reord_elsewhere different, childIds]

end Rows

namespace Transaction

variable {t next : Transaction ω} {now : Int} {operation : Operation} {destination : Destination}

theorem Added.placed {parent title : String} {kind : Kind} {url : Option String} {index : Option Int} {ord : ω}
    {rows : Rows ω} (added : Added t now parent kind title url index ord rows next)
    (absent : t.rows.get? (t.nextId now) = none) :
    next.rows.childIds parent = Destination.placed ⟨t.nextId now, parent, index⟩ (t.rows.childIds parent) := by
  have allocated := (Rows.allocated_of_ok added.found).of_absent absent
  rw [added.result]
  exact (Rows.child_ids_place allocated rfl rfl parent).trans (if_pos rfl)

-- Without the tabs, which go below the new folder.
theorem saved_placed {parent title : String} {tabs : List Tab} {index : Option Int} {ord : ω} {rows : Rows ω}
    {between : Transaction ω} (added : Added t now parent .folder title none index ord rows between)
    (fresh : Fresh t.rows (t.ids.made now (tabs.length + 1))) (there : t.rows.contains parent = true) :
    (between.rows.putAll (tabRows now (t.nextId now) between.ids 0 tabs)).childIds parent =
      Destination.placed ⟨t.nextId now, parent, index⟩ (t.rows.childIds parent) := by
  have absent := next_id_absent fresh
  have different : parent ≠ t.nextId now := by
    intro same
    exact Keyed.not_contains_iff.mpr absent (same ▸ there)
  rw [child_ids_tabs_elsewhere (added.fresh fresh) different]
  exact added.placed absent

theorem child_ids_destination (applied : Applied t now operation next)
    (placing : operation.destination? (t.nextId now) = some destination)
    (fresh : Fresh t.rows (newIds t.ids now [operation])) (there : t.rows.contains destination.parent = true) :
    next.rows.childIds destination.parent = destination.placed (t.rows.childIds destination.parent) := by
  cases applied with
  | addFolder parent title index ord rows next added =>
      obtain rfl := Option.some.inj placing
      rw [new_ids_one t now rfl] at fresh
      exact added.placed (next_id_absent fresh)
  | addBookmark parent title url index ord rows next added =>
      obtain rfl := Option.some.inj placing
      rw [new_ids_one t now rfl] at fresh
      exact added.placed (next_id_absent fresh)
  | moveNode id parent index row ord rows stored child found parented =>
      obtain rfl := Option.some.inj placing
      exact (Rows.child_ids_place (Rows.allocated_of_ok found) rfl rfl parent).trans (if_pos rfl)
  | saveSession parent title tabs index ord rows between added =>
      obtain rfl := Option.some.inj placing
      rw [new_ids_session] at fresh
      exact saved_placed added fresh there
  | renameNode id title child => simp [Operation.destination?] at placing
  | deleteNode id recursive child => simp [Operation.destination?] at placing
  | idle id bookmark => simp [Operation.destination?] at placing
  | updateBookmark id title url bookmark given => simp [Operation.destination?] at placing

-- An operation fails because of what is not there, or because the database refuses a row.
inductive Refused : StoreError → Prop
  | missing (name id : String) : Refused (.noRows name id)
  | database (fault : DatabaseFault) : Refused (.database fault)

theorem put_refused {rows : Rows ω} {id : String} {row : Row ω} {failure : StoreError}
    (failed : rows.put id row = .error failure) : Refused failure := by
  rw [Rows.put_exact] at failed
  split at failed
  · cases failed
  · cases failed
    exact .database _

theorem allocate_not_failed {rows : Rows ω} {parent : String} {index : Option Int} {left : Option String}
    {failure : StoreError} : rows.allocate parent index left ≠ .error failure := by
  obtain ⟨ord, after, found, _⟩ := Rows.allocate_ok rows parent index left
  rw [found]
  exact fun impossible => by cases impossible

theorem insert_new_refused {parent title : String} {kind : Kind} {url : Option String} {ord : ω}
    {failure : StoreError}
    (failed : t.insertNew now parent kind title url ord = .error failure) : Refused failure := by
  rcases bind_eq_error.mp failed with refused | ⟨_, _, done⟩
  · exact put_refused refused
  · cases done

theorem add_refused {parent title : String} {kind : Kind} {url : Option String} {index : Option Int}
    {failure : StoreError} (failed : t.add now parent kind title url index = .error failure) : Refused failure := by
  rcases bind_eq_error.mp failed with impossible | ⟨_, _, refused⟩
  · exact absurd impossible allocate_not_failed
  · exact insert_new_refused refused

theorem add_tabs_refused {folder : String} {number : Nat} {tabs : List Tab} {failure : StoreError}
    (failed : t.addTabs now folder number tabs = .error failure) : Refused failure := by
  induction tabs generalizing t number with
  | nil => cases failed
  | cons tab rest ih =>
      rcases bind_eq_error.mp failed with refused | ⟨_, _, later⟩
      · exact insert_new_refused refused
      · exact ih later

theorem move_refused {rows : Rows ω} {id parent : String} {index : Option Int} {failure : StoreError}
    (failed : move rows now operation id parent index = .error failure) : Refused failure := by
  rcases bind_eq_error.mp failed with impossible | ⟨_, _, rest⟩
  · exact absurd impossible allocate_not_failed
  · simp only at rest
    split at rest
    · split at rest
      · exact put_refused rest
      · cases rest
        exact .missing _ _
    · cases rest
      exact .missing _ _

omit [LinearOrder ω] [SiblingOrd ω] [RoomyOrd ω] in
theorem update_refused {rows : Rows ω} {isThere : Bool} {id : String} {change : Row ω → Row ω} {failure : StoreError}
    (failed : rows.update isThere operation id change = .error failure) : Refused failure := by
  unfold Rows.update at failed
  split at failed
  · cases failed
  · cases failed
    exact .missing _ _

theorem apply_refused {failure : StoreError} (failed : t.apply now operation = .error failure) : Refused failure := by
  cases operation with
  | addFolder parent title index =>
      rcases bind_eq_error.mp failed with refused | ⟨_, _, done⟩
      · exact add_refused refused
      · cases done
  | addBookmark parent title url index =>
      rcases bind_eq_error.mp failed with refused | ⟨_, _, done⟩
      · exact add_refused refused
      · cases done
  | renameNode id title =>
      rcases bind_eq_error.mp failed with refused | ⟨_, _, done⟩
      · exact update_refused refused
      · cases done
  | moveNode id parent index =>
      rcases bind_eq_error.mp failed with refused | ⟨_, _, done⟩
      · exact move_refused refused
      · cases done
  | deleteNode id recursive =>
      by_cases child : t.rows.isChild id = true
      · simp only [apply, child, if_true] at failed
        cases failed
      · simp only [apply, child] at failed
        cases failed
        exact .missing _ _
  | updateBookmark id title url =>
      by_cases bookmark : t.rows.isBookmark id = true
      · obtain ⟨change, _, _, done⟩ := update_bookmark_ok now bookmark title url
        rw [done] at failed
        cases failed
      · rw [update_bookmark_missing (Bool.eq_false_iff.mpr bookmark)] at failed
        cases failed
        exact .missing _ _
  | saveSession parent title tabs index =>
      rcases bind_eq_error.mp failed with refused | ⟨_, _, refused⟩
      · exact add_refused refused
      · exact add_tabs_refused refused

theorem child_ids_moved {rows after : Rows ω} {id parent : String} {index : Option Int} {ord : ω}
    (row : Row ω) (allocated : Rows.Allocated rows parent index (some id) ord after)
    (below : row.parentId = some parent) (value : row.ord = ord) (other : String) :
    Rows.childIds (after.insert id row) other =
      if other = parent then Destination.placed ⟨id, parent, index⟩ (rows.childIds parent)
      else (rows.childIds other).filter (· != id) :=
  Rows.child_ids_place allocated below value other

-- A move that was made can be made again, and then every list stays as it is.
theorem move_again {id parent : String} {index : Option Int}
    (applied : Applied t now (.moveNode id parent index) next)
    (later : Int) : ∃ again, next.apply later (.moveNode id parent index) = .ok again ∧
      ∀ other, again.rows.childIds other = next.rows.childIds other := by
  cases applied with
  | moveNode id parent index row ord rows stored child found parented =>
      have allocated := Rows.allocated_of_ok found
      let moved : Row ω := { row with parentId := some parent, ord, updatedAt := now }
      have there : Keyed.contains (rows.insert id moved) parent = true := by
        by_cases same : parent = id
        · exact Keyed.contains_iff.mpr ⟨moved, by rw [Keyed.get?_insert, if_pos same.symm]⟩
        · obtain ⟨old, parentStored⟩ := Keyed.contains_iff.mp parented
          obtain ⟨changed, kept, _⟩ := Rows.get?_place moved allocated.toReordered same parentStored
          exact Keyed.contains_iff.mpr ⟨_, kept⟩
      obtain ⟨ordAgain, after, allocatedAgain, done⟩ := move_ok (t := ⟨rows.insert id moved, t.ids⟩) later
        (.moveNode id parent index) index (by rw [Keyed.get?_insert, if_pos rfl]) rfl there
      refine ⟨_, bind_of_ok done _, fun other => ?_⟩
      have before := child_ids_moved moved allocated rfl rfl
      refine (child_ids_moved _ allocatedAgain rfl rfl other).trans ?_
      show _ = Rows.childIds (rows.insert id moved) other
      by_cases here : other = parent
      · rw [if_pos here, before parent, if_pos rfl, before other, if_pos here]
        exact Destination.placed_placed _ _
      · rw [if_neg here, before other, if_neg here, List.filter_filter]
        simp

omit [LinearOrder ω] [RoomyOrd ω] in
theorem lists_of_tree {rows : Rows ω} {version : String} {tree : Tree ω} (loaded : rows.tree version = .ok tree)
    (parent : String) : tree.childrenOf parent = rows.childIds parent := by
  obtain ⟨same, loadedSame, _, _, _, lists⟩ := Rows.tree_ok (Rows.legible_of_tree loaded) version
  rw [loaded] at loadedSame
  cases loadedSame
  exact lists parent

omit [LinearOrder ω] [RoomyOrd ω] in
theorem loaded_after {version : String} {before : Tree ω} (loaded : t.rows.tree version = .ok before)
    (done : t.apply now operation = .ok next) : ∃ after, next.rows.tree version = .ok after := by
  obtain ⟨after, reloaded, _⟩ := Rows.tree_ok
    (Rows.Steps.legible (Rows.legible_of_tree loaded) (apply_steps done)) version
  exact ⟨after, reloaded⟩

/-- A node that is added or moved stands at its index among the other children, and at the end without one, also
where ords are equal or too close. Making room changes nothing but the ords of the other children, and always
succeeds. A move that is repeated changes no list. -/
theorem position_law (t : Transaction ω) (now : Int) :
    (∀ operation destination next version before, operation.destination? (t.nextId now) = some destination →
      t.rows.tree version = .ok before → Fresh t.rows (newIds t.ids now [operation]) →
      t.rows.contains destination.parent = true → t.apply now operation = .ok next →
      ∃ after, next.rows.tree version = .ok after ∧
        PlacedAt (before.childrenOf destination.parent) (after.childrenOf destination.parent) destination) ∧
    (∀ parent index left, ∃ ord rows, t.rows.allocate parent index left = .ok (ord, rows) ∧
      Rows.Regapped t.rows rows parent left) ∧
    (∀ operation message, t.apply now operation ≠ .error (.corrupt message)) ∧
    ∀ id parent index next version before later, t.rows.tree version = .ok before →
      t.apply now (.moveNode id parent index) = .ok next →
      ∃ after again repeated, next.rows.tree version = .ok after ∧
        next.apply later (.moveNode id parent index) = .ok again ∧ again.rows.tree version = .ok repeated ∧
        ∀ other, repeated.childrenOf other = after.childrenOf other := by
  refine ⟨?placed, ?room, ?corrupt, ?repeated⟩
  case placed =>
    intro operation destination next version before placing loaded fresh there done
    obtain ⟨after, reloaded⟩ := loaded_after loaded done
    have list := child_ids_destination (applied_of_ok done) placing fresh there
    refine ⟨after, reloaded, ?_⟩
    rw [lists_of_tree reloaded, lists_of_tree loaded, list]
    exact placed_at _ destination
  case room =>
    intro parent index left
    obtain ⟨ord, rows, found, allocated⟩ := Rows.allocate_ok t.rows parent index left
    exact ⟨ord, rows, found, allocated.regapped⟩
  case corrupt =>
    intro operation message failed
    cases apply_refused failed
  case repeated =>
    intro id parent index next version before later loaded done
    obtain ⟨after, reloaded⟩ := loaded_after loaded done
    obtain ⟨again, repeated, lists⟩ := move_again (applied_of_ok done) later
    obtain ⟨last, reloadedAgain⟩ := loaded_after reloaded repeated
    refine ⟨after, again, last, reloaded, repeated, reloadedAgain, fun other => ?_⟩
    rw [lists_of_tree reloadedAgain, lists_of_tree reloaded, lists]

-- Two folders with one ord, so that there is no room between them.
def tied : Transaction ℚ where
  rows := Keyed.ofList [("root", Rows.rootRow 0), ("a", ⟨"folder", "A", none, some "root", 0, 0, 0⟩),
    ("b", ⟨"folder", "B", none, some "root", 0, 0, 0⟩)]
  ids := {}

theorem tied_get (id : String) : tied.rows.get? id =
    if id = "root" then some (Rows.rootRow 0)
    else if id = "a" then some ⟨"folder", "A", none, some "root", 0, 0, 0⟩
    else if id = "b" then some ⟨"folder", "B", none, some "root", 0, 0, 0⟩
    else none := by
  simp only [tied, Keyed.get?_of_list, List.reverse_cons, List.reverse_nil, List.nil_append, List.cons_append,
    Keyed.lookup, eq_comm (b := id)]
  grind

theorem tied_siblings : tied.rows.siblings "root" none = [("a", 0), ("b", 0)] := by
  refine (Rows.eq_siblings (by decide) (by decide) ?_).symm
  rintro ⟨id, ord⟩
  rw [Rows.mem_siblings, tied_get]
  by_cases root : id = "root"
  · simp [root, Rows.rootRow]
  · by_cases first : id = "a"
    · simp [first, eq_comm]
    · by_cases second : id = "b"
      · simp [second, eq_comm]
      · simp [root, first, second]

theorem tied_legible : tied.rows.Legible := by
  intro id row stored
  rw [tied_get] at stored
  have kind : row.kind = Kind.folder.name := by grind [Rows.rootRow, Kind.name]
  exact ⟨.folder, kind ▸ Kind.ofName?_name .folder⟩

theorem position_law_tied :
    ∃ before next after, tied.rows.tree "" = .ok before ∧ before.childrenOf "root" = ["a", "b"] ∧
      tied.apply 1 (.addFolder "root" "C" (some 1)) = .ok next ∧ next.rows.tree "" = .ok after ∧
      after.childrenOf "root" = ["a", "00000000000170000000000000000001", "b"] := by
  obtain ⟨before, loaded, _⟩ := Rows.tree_ok tied_legible ""
  obtain ⟨ord, rows, _, added⟩ := add_ok .folder "C" none (some 1)
    (show tied.rows.contains "root" = true by decide +kernel)
      (show tied.rows.get? (tied.nextId 1) = none by decide +kernel)
  have listed : before.childrenOf "root" = ["a", "b"] := by
    rw [lists_of_tree loaded, Rows.childIds, tied_siblings]
    rfl
  have done := bind_of_ok added fun added => .ok added.2
  obtain ⟨after, reloaded, placed⟩ := (position_law tied 1).1
    (.addFolder "root" "C" (some 1)) _ _ "" before rfl loaded
    ⟨by decide +kernel, by decide +kernel⟩ (by decide +kernel) done
  refine ⟨before, _, after, loaded, listed, done, reloaded, placed.list.trans ?_⟩
  rw [listed]
  decide +kernel

end Transaction

end Bookmarks
