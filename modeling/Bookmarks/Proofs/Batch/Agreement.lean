import Bookmarks.Proofs.Batch.Acceptance
import Bookmarks.Proofs.Batch.Mirror
import Bookmarks.Proofs.Store.Operations
import Bookmarks.Proofs.Tree.WellFormed

/-!
A batch as it is checked and as it is stored. The check and the storage go through it side by side; what
the check accepts next can be stored, and both then show the same tree again (`Agrees.apply`).
-/
set_option autoImplicit false

namespace Bookmarks

open Relation (ReflTransGen)
open Projection (pendingId)

-- The naming gives the numbered nodes the ids that the source makes for them.
def Names (f : Equiv.Perm String) (source : IdSource) (now : Int) (total : Nat) : Prop :=
  ∀ number, number < total → f (pendingId (number + 1)) = (source.after now (number + 1)).text

variable {ω : Type} [LinearOrder ω] [SiblingOrd ω]

-- What the check has made of the tree and what the storage has made of the rows, after the same
-- operations.
structure Agrees (born now : Int) (f : Equiv.Perm String) (source : IdSource) (p : Projection)
    (t : Transaction ω) : Prop where
  mirrors : Mirrors f p t.rows
  sound : Rows.Sound born t.rows
  ids : t.ids = source.after now p.pending
  unnumbered : ∀ number, p.pending < number → p.nodes.get? (pendingId number) = none
  fixed : ∀ id, p.nodes.contains id = true → ¬ IsPending id → f id = id

-- A naming that leaves the stored ids alone shows the tree under its own names.
theorem mirrors_start {born : Int} {rows : Rows ω} {tree : Tree ω} {version : String} {f : Equiv.Perm String}
    (sound : Rows.Sound born rows) (loaded : rows.tree version = .ok tree)
    (fixed : ∀ id, rows.contains id = true → f id = id) : Mirrors f (Projection.ofTree tree) rows := by
  obtain ⟨same, loadedSame, _, _, shown, lists⟩ := Rows.tree_ok sound.legible version
  rw [loaded] at loadedSame
  cases loadedSame
  have absent : ∀ id, rows.get? id = none → rows.get? (f id) = none := by
    intro id missing
    cases stored : rows.get? (f id) with
    | none => rfl
    | some row =>
        have here := f.injective (fixed (f id) (Keyed.contains_iff.mpr ⟨row, stored⟩))
        rw [here, missing] at stored
        cases stored
  refine ⟨?places, ?lists⟩
  case places =>
    intro id
    have named : ∀ id node, tree.nodes.get? id = some node → node.id = id := by
      intro id node found
      rw [shown, Keyed.get?_map] at found
      obtain ⟨row, _, rfl⟩ := Option.map_eq_some_iff.mp found
      rfl
    rw [Projection.place_of_tree named, shown, Keyed.get?_map]
    cases stored : rows.get? id with
    | none => simp [absent id stored]
    | some row =>
        rw [fixed id (Keyed.contains_iff.mpr ⟨row, stored⟩), stored]
        obtain ⟨kind, known⟩ := sound.legible id row stored
        have parent : row.parentId.map f = row.parentId := by
          cases below : row.parentId with
          | none => rfl
          | some parent => simp [fixed parent (Rows.parent_contained sound ⟨row, stored, below⟩)]
        simp [Rows.nodeAt, known, Kind.name_of_name? known, parent]
  case lists =>
    intro id
    have list : (Projection.ofTree tree).childrenOf id = rows.childIds id := lists id
    rw [list]
    by_cases present : rows.contains id = true
    · rw [fixed id present]
      have each : ∀ child ∈ rows.childIds id, f child = child := by
        intro child member
        obtain ⟨row, stored, _⟩ := Rows.mem_child_ids.mp member
        exact fixed child (Keyed.contains_iff.mpr ⟨row, stored⟩)
      rw [List.map_congr_left each, List.map_id']
    · have missing := Keyed.not_contains_iff.mp present
      rw [Rows.child_ids_absent sound missing, Rows.child_ids_absent sound (absent id missing)]
      rfl

namespace Agrees

variable {born now : Int} {f : Equiv.Perm String} {source : IdSource} {p q : Projection} {t : Transaction ω}
  {id parent title : String} {url : Option String} {kind : Kind} {index : Option Int} {total : Nat}

theorem start {rows : Rows ω} {tree : Tree ω} {version : String} (sound : Rows.Sound born rows)
    (loaded : rows.tree version = .ok tree) (fixed : ∀ id, rows.contains id = true → f id = id) :
    Agrees born now f source (Projection.ofTree tree) ⟨rows, source⟩ := by
  have mirrors := mirrors_start sound loaded fixed
  -- a name that is in the projection and a name of a row are the same, as the naming is one to one
  have present : ∀ id, (Projection.ofTree tree).nodes.contains id = true → rows.contains id = true := by
    intro id there
    obtain ⟨place, found⟩ := Keyed.contains_iff.mp there
    obtain ⟨row, stored, _⟩ := mirrors.row found
    have here := f.injective (fixed (f id) (Keyed.contains_iff.mpr ⟨row, stored⟩))
    rw [here] at stored
    exact Keyed.contains_iff.mpr ⟨row, stored⟩
  refine ⟨mirrors, sound, rfl, ?unnumbered, ?fixed⟩
  case unnumbered =>
    intro number _
    apply Keyed.not_contains_iff.mp
    intro there
    exact sound.named _ (present _ there) (pending_id_pending number)
  case fixed =>
    intro id there _
    exact fixed id (present id there)

theorem next_id (agrees : Agrees born now f source p t) (names : Names f source now total)
    (room : p.pending < total) : t.nextId now = f (pendingId (p.pending + 1)) := by
  rw [names p.pending room, Transaction.nextId, agrees.ids]
  rfl

theorem next_fresh (agrees : Agrees born now f source p t) (names : Names f source now total)
    (room : p.pending < total) : t.rows.get? (t.nextId now) = none := by
  rw [agrees.next_id names room]
  exact agrees.mirrors.absent (agrees.unnumbered _ (Nat.lt_succ_self _))

theorem folder (agrees : Agrees born now f source p t) (folder : p.IsFolder parent) :
    Rows.IsFolder t.rows (f parent) := by
  obtain ⟨above, found⟩ := folder
  obtain ⟨row, stored, kind, _⟩ := agrees.mirrors.row found
  exact ⟨row, stored, kind⟩

-- A change of the tree that adds no node.
theorem within (agrees : Agrees born now f source p t) {rows : Rows ω} (mirrors : Mirrors f q rows)
    (sound : Rows.Sound born rows) (pending : q.pending = p.pending)
    (older : ∀ id place, q.nodes.get? id = some place → p.nodes.contains id = true) :
    Agrees born now f source q { t with rows } := by
  refine ⟨mirrors, sound, ?ids, ?unnumbered, ?fixed⟩
  case ids =>
    rw [pending]
    exact agrees.ids
  case unnumbered =>
    intro number above
    rw [pending] at above
    cases found : q.nodes.get? (pendingId number) with
    | none => rfl
    | some place =>
        exact absurd (older _ place found) (Keyed.not_contains_iff.mpr (agrees.unnumbered number above))
  case fixed =>
    intro id there plain
    obtain ⟨place, found⟩ := Keyed.contains_iff.mp there
    exact agrees.fixed id (older id place found) plain

theorem is_child {place : Place} (agrees : Agrees born now f source p t) (found : p.nodes.get? id = some place)
    (notRoot : f id ≠ rootId) : t.rows.isChild (f id) = true := by
  obtain ⟨row, stored, _, _⟩ := agrees.mirrors.row found
  obtain ⟨upper, below, _⟩ := agrees.sound.housed (f id) row stored notRoot
  simp [Rows.isChild, stored, below]

theorem no_children_of_number (agrees : Agrees born now f source p t) {number : Nat} (above : p.pending < number) :
    p.childrenOf (pendingId number) = [] := by
  have absent := agrees.mirrors.absent (agrees.unnumbered number above)
  have empty := Rows.child_ids_absent agrees.sound absent
  rw [agrees.mirrors.lists] at empty
  exact List.map_eq_nil_iff.mp empty

variable [RoomyOrd ω]

-- A node that the check adds under its number and a row that is stored under the next id.
theorem place_new (agrees : Agrees born now f source p t) (names : Names f source now total)
    (room : p.pending < total) (folder : p.IsFolder parent) {ord : ω} {after : Rows ω}
    (allocated : Rows.Allocated t.rows (f parent) index (some (t.nextId now)) ord after)
    (furnished : Rows.Furnished (Transaction.newRow now (f parent) kind title url ord)) :
    Agrees born now f source (p.add parent kind index).1
      ⟨after.insert (t.nextId now) (Transaction.newRow now (f parent) kind title url ord), t.ids.advance now⟩ := by
  have named := agrees.next_id names room
  have fresh := agrees.next_fresh names room
  have missing := agrees.unnumbered (p.pending + 1) (Nat.lt_succ_self _)
  have present := Rows.contains_of_folder (agrees.folder folder)
  -- the number is in no list yet, so nothing is taken out of the lists
  have unlisted : ∀ other, (p.childrenOf other).filter (· != pendingId (p.pending + 1)) = p.childrenOf other := by
    intro other
    apply List.filter_eq_self.mpr
    intro child member
    have different : child ≠ pendingId (p.pending + 1) := by
      rintro rfl
      have step := agrees.mirrors.listed_iff.mp member
      rw [Projection.Under, Projection.parentOf, missing] at step
      cases step
    simp [different]
  refine ⟨?mirrors, ?sound, ?ids, ?unnumbered, ?fixed⟩
  case mirrors =>
    show Mirrors f (p.add parent kind index).1
      (after.insert (t.nextId now) (Transaction.newRow now (f parent) kind title url ord))
    rw [named] at allocated ⊢
    refine agrees.mirrors.place allocated rfl rfl rfl (Projection.get?_add p parent kind index) ?_
    intro other
    rw [unlisted parent, unlisted other]
    exact Projection.children_of_add p parent kind index other
  case sound =>
    refine agrees.sound.place allocated rfl rfl (agrees.folder folder) ?_ ?_ ?_ furnished ?_
    · exact Rows.not_below_absent agrees.sound fresh present
    · intro isRoot
      rw [isRoot, agrees.sound.rooted] at fresh
      cases fresh
    · exact IdSource.text_not_pending _
    · intro old stored
      rw [fresh] at stored
      cases stored
  case ids =>
    rw [Projection.pending_add, agrees.ids]
    rfl
  case unnumbered =>
    intro number above
    rw [Projection.pending_add] at above
    have different : pendingId (p.pending + 1) ≠ pendingId number := by
      intro same
      have := pending_id_injective same
      omega
    rw [Projection.get?_add, if_neg different]
    exact agrees.unnumbered number (by omega)
  case fixed =>
    intro other there plain
    have different : pendingId (p.pending + 1) ≠ other := fun same => plain (same ▸ pending_id_pending _)
    rw [Keyed.contains, Projection.get?_add, if_neg different] at there
    exact agrees.fixed other there plain

theorem add (agrees : Agrees born now f source p t) (kind : Kind) (title : String) (url : Option String)
    (index : Option Int) (names : Names f source now total)
    (room : p.pending < total) (folder : p.IsFolder parent)
    (furnished : ∀ ord : ω, Rows.Furnished (Transaction.newRow now (f parent) kind title url ord)) :
    ∃ next, t.add now (f parent) kind title url index = .ok (t.nextId now, next) ∧
      Agrees born now f source (p.add parent kind index).1 next := by
  have present := Rows.contains_of_folder (agrees.folder folder)
  obtain ⟨ord, after, allocated, added⟩ := Transaction.add_ok kind title url index present
    (agrees.next_fresh names room)
  exact ⟨_, added, agrees.place_new names room folder allocated (furnished ord)⟩

-- The folder's children so far have the ords below `number`, so each tab goes to the end.
theorem add_tabs {folder : String} {tabs : List Tab} (agrees : Agrees born now f source p t) (number : Nat)
    (names : Names f source now total) (room : p.pending + tabs.length ≤ total) (isFolder : p.IsFolder folder)
    (below : ∀ entry ∈ t.rows.siblings (f folder) none, entry.2 < SiblingOrd.ofNat number)
    (addresses : ∀ tab ∈ tabs, Url.isWebAddress tab.url = true) :
    ∃ next, t.addTabs now (f folder) number tabs = .ok next ∧
      Agrees born now f source (p.addTabs folder tabs) next := by
  induction tabs generalizing p t number with
  | nil => exact ⟨t, rfl, agrees⟩
  | cons tab rest ih =>
      -- `place_new` for the first tab; its ord is below the number of the next one
      rw [List.length_cons] at room
      have fresh := agrees.next_fresh names (by omega)
      have present := Rows.contains_of_folder (agrees.folder isFolder)
      have allocated := Rows.allocated_at_end fresh below
      have furnished : Rows.Furnished (Transaction.newRow now (f folder) .bookmark tab.title (some tab.url)
          (SiblingOrd.ofNat number : ω)) :=
        Or.inr ⟨rfl, tab.url, rfl, addresses tab List.mem_cons_self⟩
      have placed := agrees.place_new names (by omega) isFolder allocated furnished
      have stillFolder : (p.add folder .bookmark none).1.IsFolder folder := by
        obtain ⟨above, found⟩ := isFolder
        exact ⟨above, Projection.get?_add_of_some folder .bookmark none
          (agrees.unnumbered _ (Nat.lt_succ_self _)) found⟩
      have belowNext := Rows.below_next
        (Transaction.newRow now (f folder) .bookmark tab.title (some tab.url) (SiblingOrd.ofNat number)) fresh below rfl rfl
      obtain ⟨next, added, agreesNext⟩ := ih placed (number + 1)
        (by rw [Projection.pending_add]; omega) stillFolder belowNext
        (fun other member => addresses other (List.mem_cons_of_mem _ member))
      refine ⟨next, ?_, agreesNext⟩
      rw [Transaction.addTabs, bind_of_ok (Transaction.insert_new_ok present)]
      exact added

theorem save_session {tabs : List Tab} (agrees : Agrees born now f source p t) (title : String)
    (index : Option Int) (names : Names f source now total) (room : p.pending + (1 + tabs.length) ≤ total)
    (folder : p.IsFolder parent)
    (addresses : ∀ tab ∈ tabs, Url.isWebAddress tab.url = true) :
    ∃ next, t.apply now (.saveSession (f parent) title tabs index) = .ok next ∧
      Agrees born now f source
        ((p.add parent .folder index).1.addTabs (p.add parent .folder index).2 tabs) next := by
  have missing := agrees.unnumbered (p.pending + 1) (Nat.lt_succ_self _)
  obtain ⟨between, added, agreesBetween⟩ := agrees.add .folder title none index names
    (by omega) folder (fun _ => Or.inl ⟨rfl, rfl⟩)
  have isFolder : (p.add parent .folder index).1.IsFolder (pendingId (p.pending + 1)) :=
    ⟨some parent, by rw [Projection.get?_add, if_pos rfl]⟩
  have different : pendingId (p.pending + 1) ≠ parent := by
    rintro rfl
    obtain ⟨above, found⟩ := folder
    rw [missing] at found
    cases found
  have empty : between.rows.siblings (f (pendingId (p.pending + 1))) none = [] := by
    have list := agreesBetween.mirrors.lists (pendingId (p.pending + 1))
    rw [Projection.children_of_add, if_neg different, agrees.no_children_of_number (Nat.lt_succ_self _)] at list
    exact List.map_eq_nil_iff.mp list
  obtain ⟨next, tabbed, agreesNext⟩ := agreesBetween.add_tabs 0 names
    (by rw [Projection.pending_add]; omega) isFolder (by simp [empty]) addresses
  refine ⟨next, ?_, agreesNext⟩
  rw [Transaction.apply, bind_of_ok added, agrees.next_id names (by omega)]
  exact tabbed

theorem move {place : Place} (agrees : Agrees born now f source p t) (index : Option Int)
    (found : p.nodes.get? id = some place)
    (notRoot : f id ≠ rootId) (different : parent ≠ id) (apart : p.isDescendant parent id = false)
    (folder : p.IsFolder parent) (operation : Operation) :
    ∃ rows, Transaction.move t.rows now operation (f id) (f parent) index = .ok rows ∧
      Agrees born now f source (p.relink id parent index) { t with rows } := by
  obtain ⟨row, stored, kind, above⟩ := agrees.mirrors.row found
  obtain ⟨upper, below, _⟩ := agrees.sound.housed (f id) row stored notRoot
  have present := Rows.contains_of_folder (agrees.folder folder)
  obtain ⟨ord, after, allocated, moved⟩ := Transaction.move_ok now operation index stored below present
  refine ⟨_, moved, agrees.within ?_ ?_ (Projection.pending_relink p id parent index) ?_⟩
  · refine agrees.mirrors.place allocated rfl rfl kind ?_ ?_
    · intro other
      rw [Projection.get?_relink, found]
      rfl
    · exact Projection.children_of_relink agrees.mirrors.parent_of_listed parent index
  · refine agrees.sound.place allocated rfl rfl (agrees.folder folder) ?_ notRoot ?_ ?_ ?_
    · intro path
      exact Projection.not_above_of_not_descendant different apart (agrees.mirrors.path_iff.mp path)
    · exact agrees.sound.named (f id) (Keyed.contains_iff.mpr ⟨row, stored⟩)
    · exact agrees.sound.furnished (f id) row stored
    · intro old storedOld
      rw [stored] at storedOld
      rw [← Option.some.inj storedOld]
  · intro other old there
    rw [Projection.get?_relink] at there
    by_cases same : id = other
    · exact Keyed.contains_iff.mpr ⟨place, same ▸ found⟩
    · rw [if_neg same] at there
      exact Keyed.contains_iff.mpr ⟨old, there⟩

theorem remove {place : Place} (agrees : Agrees born now f source p t) (found : p.nodes.get? id = some place)
    (notRoot : f id ≠ rootId) :
    Agrees born now f source (p.removeSubtree id) { t with rows := t.rows.removeAll [f id] } := by
  obtain ⟨row, stored, _, _⟩ := agrees.mirrors.row found
  have present : t.rows.contains (f id) = true := Keyed.contains_iff.mpr ⟨row, stored⟩
  refine agrees.within (agrees.mirrors.remove present) (agrees.sound.remove notRoot)
    (Projection.pending_removeSubtree p id) ?_
  intro other old there
  exact Keyed.contains_iff.mpr
    ⟨old, Projection.get?_of_removeSubtree agrees.mirrors.parent_of_listed there⟩

theorem change (agrees : Agrees born now f source p t) {change : Row ω → Row ω} (notRoot : id ≠ rootId)
    (retains : ∀ old, Rows.Retains old (change old))
    (furnished : ∀ old, t.rows.get? id = some old → Rows.Furnished (change old)) :
    Agrees born now f source p { t with rows := t.rows.modify id change } := by
  refine agrees.within (agrees.mirrors.change retains id) (agrees.sound.change notRoot retains furnished) rfl ?_
  intro other old there
  exact Keyed.contains_iff.mpr ⟨old, there⟩

-- What is accepted can be stored, if it names nodes by their ids.
theorem apply {operation : Operation} (agrees : Agrees born now f source p t) (accepted : p.apply operation = .ok q)
    (plain : ∀ id ∈ operation.names, ¬ IsPending id) (names : Names f source now total)
    (room : q.pending ≤ total) :
    ∃ next, t.apply now operation = .ok next ∧ Agrees born now f source q next := by
  have accepts := Projection.accepts_of_ok accepted
  have fixed : ∀ id ∈ operation.names, f id = id := fun id named =>
    agrees.fixed id (Projection.contains_of_accepts accepts named) (plain id named)
  rw [Projection.pending_of_accepts accepts] at room
  cases accepts with
  | addFolder parent title index folder fits =>
      obtain ⟨next, added, agreesNext⟩ := agrees.add .folder title none index names room
        folder (fun _ => Or.inl ⟨rfl, rfl⟩)
      rw [fixed parent (by simp [Operation.names])] at added
      exact ⟨next, bind_of_ok added _, agreesNext⟩
  | addBookmark parent title url index folder fits address =>
      obtain ⟨next, added, agreesNext⟩ := agrees.add .bookmark title (some url) index names room
        folder (fun _ => Or.inr ⟨rfl, url, rfl, address⟩)
      rw [fixed parent (by simp [Operation.names])] at added
      exact ⟨next, bind_of_ok added _, agreesNext⟩
  | renameNode id title place found notRoot =>
      have same := fixed id (by simp [Operation.names])
      have there := agrees.is_child found (same.symm ▸ notRoot)
      rw [same] at there
      refine ⟨_, bind_of_ok (Rows.update_ok there _ _ _) _, agrees.change notRoot (fun _ => ⟨rfl, rfl, rfl⟩) ?_⟩
      intro old storedOld
      exact agrees.sound.furnished id old storedOld
  | moveNode id parent index place found notRoot different apart folder fits =>
      have sameId := fixed id (by simp [Operation.names])
      have sameParent := fixed parent (by simp [Operation.names])
      obtain ⟨rows, moved, agreesNext⟩ := agrees.move index found (sameId.symm ▸ notRoot) different apart
        folder (.moveNode id parent index)
      rw [sameId, sameParent] at moved
      exact ⟨_, bind_of_ok moved _, agreesNext⟩
  | deleteNode id recursive place found notRoot =>
      have same := fixed id (by simp [Operation.names])
      have agreesNext := agrees.remove found (same.symm ▸ notRoot)
      have there := agrees.is_child found (same.symm ▸ notRoot)
      rw [same] at there agreesNext
      exact ⟨_, by simp only [Transaction.apply, there, if_true], agreesNext⟩
  | updateBookmark id title url above found notRoot address =>
      have same := fixed id (by simp [Operation.names])
      obtain ⟨row, stored, kind, _⟩ := agrees.mirrors.row found
      rw [same] at stored
      have there : t.rows.isBookmark id = true := by simp [Rows.isBookmark, stored, kind]
      obtain ⟨change, retains, newUrl, updated⟩ := Transaction.update_bookmark_ok now there title url
      refine ⟨_, updated, agrees.change notRoot retains ?_⟩
      intro old storedOld
      rw [stored] at storedOld
      rw [← Option.some.inj storedOld]
      have isBookmark : (change row).kind = Kind.bookmark.name := (retains row).kind.trans kind
      refine Or.inr ⟨isBookmark, ?_⟩
      rw [newUrl]
      cases url with
      | some text => exact ⟨text, rfl, address text rfl⟩
      | none =>
          -- the old address stays, and a bookmark has one
          rcases agrees.sound.furnished id row stored with ⟨isFolder, _⟩ | ⟨_, furnished⟩
          · rw [kind] at isFolder
            exact absurd (show Kind.bookmark.name = Kind.folder.name from isFolder) (by decide)
          · exact furnished
  | saveSession parent title tabs index folder fits addresses =>
      obtain ⟨next, saved, agreesNext⟩ := agrees.save_session title index names room folder
        addresses
      rw [fixed parent (by simp [Operation.names])] at saved
      exact ⟨next, saved, agreesNext⟩

-- The storage has no rows under numbers, so an operation that names one has nothing to work on.
theorem apply_pending {operation : Operation} (now : Int) (sound : Rows.Sound born t.rows)
    (named : id ∈ operation.names) (pending : IsPending id) : ∃ failure, t.apply now operation = .error failure := by
  have missing : t.rows.get? id = none :=
    Keyed.not_contains_iff.mp fun present => sound.named id present pending
  have different : id ≠ t.nextId now := fun same => IdSource.text_not_pending _ (same ▸ pending)
  have notChild : t.rows.isChild id = false := by simp [Rows.isChild, missing]
  cases operation with
  | addFolder parent title index =>
      cases List.mem_singleton.mp named
      exact ⟨_, bind_of_error (Transaction.add_missing missing different) _⟩
  | addBookmark parent title url index =>
      cases List.mem_singleton.mp named
      exact ⟨_, bind_of_error (Transaction.add_missing missing different) _⟩
  | renameNode node title =>
      cases List.mem_singleton.mp named
      exact ⟨_, bind_of_error (Rows.update_missing notChild _ _ _) _⟩
  | moveNode node parent index =>
      cases stored : t.rows.get? node with
      | none => exact ⟨_, bind_of_error (Transaction.move_missing stored) _⟩
      | some row =>
          -- the row that is moved is there, so it is the new parent that is named by a number
          have isParent : id = parent := by
            rcases List.mem_cons.mp named with here | there
            · rw [here, stored] at missing
              cases missing
            · exact List.mem_singleton.mp there
          subst isParent
          obtain ⟨failure, failed⟩ := Transaction.move_missing_parent now (.moveNode node id index) index
            stored missing
          exact ⟨failure, bind_of_error failed _⟩
  | deleteNode node recursive =>
      cases List.mem_singleton.mp named
      exact ⟨_, by rw [Transaction.apply, if_neg (by simp [notChild])]⟩
  | updateBookmark node title url =>
      cases List.mem_singleton.mp named
      have notBookmark : t.rows.isBookmark id = false := by simp [Rows.isBookmark, missing]
      exact ⟨_, Transaction.update_bookmark_missing notBookmark title url⟩
  | saveSession parent title tabs index =>
      cases List.mem_singleton.mp named
      exact ⟨_, bind_of_error (Transaction.add_missing missing different) _⟩

theorem plain_of_apply_all {number : Nat} {batch : List Operation} (agrees : Agrees born now f source p t)
    (accepted : p.applyAll number batch = .ok q) (names : Names f source now total) (room : q.pending ≤ total)
    {next : Transaction ω} (stored : t.applyAll now batch = .ok next) :
    ∀ operation ∈ batch, ∀ id ∈ operation.names, ¬ IsPending id := by
  -- by induction on the batch: an operation that was stored names no number, so the agreement lasts
  induction batch generalizing p t number with
  | nil =>
      intro operation member
      cases member
  | cons operation rest ih =>
      obtain ⟨between, done, finished⟩ := bind_eq_ok.mp stored
      have plain : ∀ id ∈ operation.names, ¬ IsPending id := by
        intro id named pending
        obtain ⟨failure, failed⟩ := apply_pending now agrees.sound named pending
        rw [done] at failed
        cases failed
      unfold Projection.applyAll at accepted
      split at accepted
      · cases accepted
      · rename_i middle applied
        have later := Projection.pending_of_apply_all accepted
        obtain ⟨same, doneSame, agreesBetween⟩ := agrees.apply applied plain names (by omega)
        rw [done] at doneSame
        cases doneSame
        intro other member
        rcases List.mem_cons.mp member with here | behind
        · exact here ▸ plain
        · exact ih agreesBetween accepted finished other behind

theorem apply_all {number : Nat} {batch : List Operation} (agrees : Agrees born now f source p t)
    (accepted : p.applyAll number batch = .ok q)
    (plain : ∀ operation ∈ batch, ∀ id ∈ operation.names, ¬ IsPending id) (names : Names f source now total)
    (room : q.pending ≤ total) :
    ∃ next, t.applyAll now batch = .ok next ∧ Agrees born now f source q next := by
  induction batch generalizing p t number with
  | nil =>
      cases accepted
      exact ⟨t, rfl, agrees⟩
  | cons operation rest ih =>
      unfold Projection.applyAll at accepted
      split at accepted
      · cases accepted
      · rename_i between applied
        have later := Projection.pending_of_apply_all accepted
        obtain ⟨stored, done, agreesBetween⟩ := agrees.apply applied (plain operation List.mem_cons_self) names
          (by omega)
        obtain ⟨next, finished, agreesNext⟩ := ih agreesBetween accepted
          (fun other member => plain other (List.mem_cons_of_mem _ member))
        exact ⟨next, (bind_of_ok done _).trans finished, agreesNext⟩

end Agrees

end Bookmarks
