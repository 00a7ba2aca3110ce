import Bookmarks.Proofs.Identity
import Bookmarks.Proofs.Rows.Placement
import Bookmarks.Proofs.Rows.Removal
import Bookmarks.Url.WebAddress

/-!
The rows of a tree: all are below the root, which stays as it was made. What the operations do to rows
keeps them so.
-/
set_option autoImplicit false

namespace Bookmarks.Rows

open Relation (ReflTransGen)

variable {ω : Type} {rows after : Rows ω} {born : Int} {parent id : String} {index : Option Int} {ord : ω} {row : Row ω}

-- A bookmark has an address, a folder has none.
def Furnished (row : Row ω) : Prop :=
  row.kind = Kind.folder.name ∧ row.url = none ∨
    row.kind = Kind.bookmark.name ∧ ∃ url, row.url = some url ∧ Url.isWebAddress url = true

def IsFolder (rows : Rows ω) (id : String) : Prop :=
  ∃ row, rows.get? id = some row ∧ row.kind = Kind.folder.name

theorem contains_of_folder (folder : IsFolder rows id) : rows.contains id = true := by
  obtain ⟨row, found, _⟩ := folder
  exact Keyed.contains_iff.mpr ⟨row, found⟩

-- What a renaming or a new address leaves of a row.
structure Retains {ω : Type} (old new : Row ω) : Prop where
  kind : new.kind = old.kind
  parentId : new.parentId = old.parentId
  ord : new.ord = old.ord

theorem modify_cases {change : Row ω → Row ω} {other : String} {new : Row ω}
    (retains : ∀ old, Retains old (change old)) (found : Keyed.get? (rows.modify id change) other = some new) :
    ∃ old, rows.get? other = some old ∧ Retains old new ∧ (new = old ∨ id = other ∧ new = change old) := by
  rw [Keyed.get?_modify] at found
  by_cases same : id = other
  · subst same
    rw [if_pos rfl] at found
    obtain ⟨old, stored, rfl⟩ := Option.map_eq_some_iff.mp found
    exact ⟨old, stored, retains old, Or.inr ⟨rfl, rfl⟩⟩
  · rw [if_neg same] at found
    exact ⟨new, found, ⟨rfl, rfl, rfl⟩, Or.inl rfl⟩

theorem get?_of_modify {change : Row ω → Row ω} {other : String} {old : Row ω} (id : String)
    (retains : ∀ old, Retains old (change old)) (stored : rows.get? other = some old) :
    ∃ new, Keyed.get? (rows.modify id change) other = some new ∧ Retains old new := by
  rw [Keyed.get?_modify]
  by_cases same : id = other
  · subst same
    exact ⟨change old, by simp [stored], retains old⟩
  · exact ⟨old, by rw [if_neg same, stored], ⟨rfl, rfl, rfl⟩⟩

theorem under_modify {change : Row ω → Row ω} {a b : String} (retains : ∀ old, Retains old (change old)) :
    Under (rows.modify id change) a b ↔ Under rows a b := by
  constructor
  · rintro ⟨new, found, below⟩
    obtain ⟨old, stored, same, _⟩ := modify_cases retains found
    exact ⟨old, stored, same.parentId.symm.trans below⟩
  · rintro ⟨old, stored, below⟩
    obtain ⟨new, found, same⟩ := get?_of_modify id retains stored
    exact ⟨new, found, same.parentId.trans below⟩

variable [LinearOrder ω] [SiblingOrd ω]

-- The root is a row without a parent, so the path of a row to the root is all that is above it.
structure Sound (born : Int) (rows : Rows ω) : Prop where
  rooted : rows.get? rootId = some (rootRow born)
  housed : ∀ id row, rows.get? id = some row → id ≠ rootId →
    ∃ parent, row.parentId = some parent ∧ IsFolder rows parent
  anchored : ∀ id, rows.contains id = true → ReflTransGen (Under rows) id rootId
  furnished : ∀ id row, rows.get? id = some row → Furnished row
  spaced : Spaced rows
  named : ∀ id, rows.contains id = true → ¬ IsPending id

theorem not_under_root (sound : Sound born rows) : ¬ Under rows rootId parent := by
  rintro ⟨row, found, below⟩
  rw [sound.rooted] at found
  rw [← Option.some.inj found] at below
  cases below

theorem parent_contained (sound : Sound born rows) (step : Under rows id parent) : rows.contains parent = true := by
  obtain ⟨row, found, below⟩ := step
  have notRoot : id ≠ rootId := by
    rintro rfl
    exact not_under_root sound ⟨row, found, below⟩
  obtain ⟨upper, belowUpper, folder⟩ := sound.housed id row found notRoot
  rw [below] at belowUpper
  rw [Option.some.inj belowUpper]
  exact contains_of_folder folder

theorem not_below_absent (sound : Sound born rows) (absent : rows.get? id = none) {other : String}
    (present : rows.contains other = true) : ¬ ReflTransGen (Under rows) other id := by
  intro path
  have there : rows.contains id = true := by
    rcases ReflTransGen.cases_tail path with same | ⟨lower, _, step⟩
    · rw [same]
      exact present
    · exact parent_contained sound step
  exact Keyed.not_contains_iff.mpr absent there

theorem child_ids_absent (sound : Sound born rows) (absent : rows.get? id = none) : rows.childIds id = [] := by
  apply List.eq_nil_iff_forall_not_mem.mpr
  intro other member
  have step : Under rows other id := mem_child_ids.mp member
  exact Keyed.not_contains_iff.mpr absent (parent_contained sound step)

theorem sound_root (born : Int) : Sound born (withRoot ∅ born : Rows ω) := by
  have only : ∀ id, (withRoot ∅ born : Rows ω).get? id = if rootId = id then some (rootRow born) else none := by
    intro id
    simp [withRoot, Keyed.contains, Keyed.get?_empty, Keyed.get?_insert]
  have isRoot : ∀ id row, (withRoot ∅ born : Rows ω).get? id = some row → id = rootId ∧ row = rootRow born := by
    intro id row found
    rw [only] at found
    split at found
    · rename_i same
      exact ⟨same.symm, (Option.some.inj found).symm⟩
    · cases found
  refine ⟨by simp [only], ?housed, ?anchored, ?furnished, ?spaced, ?named⟩
  case housed =>
    intro id row found different
    exact absurd (isRoot id row found).1 different
  case anchored =>
    intro id present
    obtain ⟨row, found⟩ := Keyed.contains_iff.mp present
    rw [(isRoot id row found).1]
  case furnished =>
    intro id row found
    rw [(isRoot id row found).2]
    exact Or.inl ⟨rfl, rfl⟩
  case spaced =>
    intro parent
    have empty : siblings (withRoot ∅ born : Rows ω) parent none = [] := by
      apply List.eq_nil_iff_forall_not_mem.mpr
      rintro ⟨id, ord⟩ member
      obtain ⟨row, found, below, _⟩ := mem_siblings.mp member
      rw [(isRoot id row found).2] at below
      cases below
    simp [empty]
  case named =>
    intro id present
    obtain ⟨row, found⟩ := Keyed.contains_iff.mp present
    rw [(isRoot id row found).1]
    decide

theorem under_place {a b : String} {left : Option String} (allocated : Allocated rows parent index left ord after)
    (below : row.parentId = some parent) :
    Under (after.insert id row) a b ↔ a = id ∧ b = parent ∨ a ≠ id ∧ Under rows a b := by
  by_cases same : a = id
  · subst same
    simp [Under, Keyed.get?_insert, below, eq_comm]
  · simp only [same, false_and, false_or, ne_eq, not_false_eq_true, true_and]
    constructor
    · rintro ⟨new, found, belowB⟩
      obtain ⟨old, changed, stored, rfl⟩ := get?_of_place allocated.toReordered same found
      exact ⟨old, stored, belowB⟩
    · rintro ⟨old, stored, belowB⟩
      obtain ⟨changed, found, _⟩ := get?_place row allocated.toReordered same stored
      exact ⟨_, found, belowB⟩

-- The path of the new parent does not lead through the row, or the row would be put below itself.
theorem anchored_place {left : Option String} (allocated : Allocated rows parent index left ord after)
    (below : row.parentId = some parent) (apart : ¬ ReflTransGen (Under rows) parent id)
    (above : ReflTransGen (Under rows) parent rootId) {other : String}
    (old : other = id ∨ ReflTransGen (Under rows) other rootId) :
    ReflTransGen (Under (after.insert id row)) other rootId := by
  have placed : Under (after.insert id row) id parent := (under_place allocated below).mpr (Or.inl ⟨rfl, rfl⟩)
  refine reaches_moved placed (fun a b step different => ?_) apart above old
  exact (under_place allocated below).mpr (Or.inr ⟨different, step⟩)

theorem folder_place {left : Option String} {other : String} (allocated : Allocated rows parent index left ord after)
    (kept : ∀ old, rows.get? id = some old → row.kind = old.kind) (folder : IsFolder rows other) :
    IsFolder (after.insert id row) other := by
  obtain ⟨old, stored, kind⟩ := folder
  by_cases same : other = id
  · subst same
    exact ⟨row, by simp [Keyed.get?_insert], (kept old stored).trans kind⟩
  · obtain ⟨changed, found, _⟩ := get?_place row allocated.toReordered same stored
    exact ⟨_, found, kind⟩

variable [AscendingOrd ω]

-- A row that is put below a folder that is not below the row.
theorem Sound.place (sound : Sound born rows) (allocated : Allocated rows parent index (some id) ord after)
    (below : row.parentId = some parent) (value : row.ord = ord) (folder : IsFolder rows parent)
    (apart : ¬ ReflTransGen (Under rows) parent id) (notRoot : id ≠ rootId) (plain : ¬ IsPending id)
    (furnished : Furnished row) (kept : ∀ old, rows.get? id = some old → row.kind = old.kind) :
    Sound born (after.insert id row) := by
  have origin : ∀ other, Keyed.contains (after.insert id row) other = true → other = id ∨ rows.contains other = true := by
    intro other present
    obtain ⟨new, found⟩ := Keyed.contains_iff.mp present
    by_cases same : other = id
    · exact Or.inl same
    · obtain ⟨old, _, stored, _⟩ := get?_of_place allocated.toReordered same found
      exact Or.inr (Keyed.contains_iff.mpr ⟨old, stored⟩)
  refine ⟨?rooted, ?housed, ?anchored, ?furnished, spaced_place sound.spaced allocated below value, ?named⟩
  case rooted =>
    obtain ⟨changed, found, unchanged⟩ := get?_place row allocated.toReordered notRoot.symm sound.rooted
    have same : changed = (rootRow born).ord := unchanged (by simp [rootRow])
    rw [found, same]
  case housed =>
    intro other new found notRoot
    by_cases same : other = id
    · subst same
      rw [Keyed.get?_insert, if_pos rfl] at found
      rw [← Option.some.inj found]
      exact ⟨parent, below, folder_place allocated kept folder⟩
    · obtain ⟨old, changed, stored, rfl⟩ := get?_of_place allocated.toReordered same found
      obtain ⟨upper, belowUpper, folder⟩ := sound.housed other old stored notRoot
      exact ⟨upper, belowUpper, folder_place allocated kept folder⟩
  case anchored =>
    intro other present
    have above := sound.anchored parent (contains_of_folder folder)
    refine anchored_place allocated below apart above ?_
    exact (origin other present).imp_right (sound.anchored other)
  case furnished =>
    intro other new found
    by_cases same : other = id
    · subst same
      rw [Keyed.get?_insert, if_pos rfl] at found
      rw [← Option.some.inj found]
      exact furnished
    · obtain ⟨old, changed, stored, rfl⟩ := get?_of_place allocated.toReordered same found
      exact sound.furnished other old stored
  case named =>
    intro other present
    rcases origin other present with rfl | old
    · exact plain
    · exact sound.named other old

theorem Sound.remove (sound : Sound born rows) (notRoot : id ≠ rootId) : Sound born (rows.removeAll [id]) := by
  have spared : ∀ {other row}, (rows.removeAll [id]).get? other = some row →
      ¬ Doomed rows [id] other ∧ rows.get? other = some row := by
    intro other row found
    obtain ⟨gone, kept⟩ := get?_removeAll rows [id] other
    by_cases doomed : Doomed rows [id] other
    · rw [gone doomed] at found
      cases found
    · exact ⟨doomed, (kept doomed).symm.trans found⟩
  have rootSpared : ¬ Doomed rows [id] rootId := by
    intro doomed
    obtain ⟨_, path⟩ := doomed_one_iff.mp doomed
    rcases ReflTransGen.cases_head path with same | ⟨upper, step, _⟩
    · exact notRoot same.symm
    · exact not_under_root sound step
  refine ⟨?rooted, ?housed, ?anchored, ?furnished, ?spaced, ?named⟩
  case rooted =>
    rw [(get?_removeAll rows [id] rootId).2 rootSpared, sound.rooted]
  case housed =>
    intro other row found notRoot
    obtain ⟨staying, stored⟩ := spared found
    obtain ⟨parent, below, folder, folderStored, kind⟩ := sound.housed other row stored notRoot
    have parentStaying : ¬ Doomed rows [id] parent := fun doomed => staying (doomed.below ⟨row, stored, below⟩)
    exact ⟨parent, below, folder, by rw [(get?_removeAll rows [id] parent).2 parentStaying, folderStored], kind⟩
  case anchored =>
    intro other present
    obtain ⟨row, found⟩ := Keyed.contains_iff.mp present
    obtain ⟨staying, stored⟩ := spared found
    have path := sound.anchored other (Keyed.contains_iff.mpr ⟨row, stored⟩)
    exact reaches_spared (Doomed rows [id]) (fun _ _ step doomed => doomed.below step)
      (fun _ _ step kept => under_removeAll.mpr ⟨kept, step⟩) staying path
  case furnished =>
    intro other row found
    exact sound.furnished other row (spared found).2
  case spaced =>
    intro parent
    rw [siblings_removeAll]
    exact (sound.spaced parent).sublist (List.filter_sublist.map _)
  case named =>
    intro other present
    obtain ⟨row, found⟩ := Keyed.contains_iff.mp present
    exact sound.named other (Keyed.contains_iff.mpr ⟨row, (spared found).2⟩)

theorem siblings_modify {change : Row ω → Row ω} (retains : ∀ old, Retains old (change old)) (parent : String) :
    siblings (rows.modify id change) parent none = rows.siblings parent none := by
  apply siblings_congr
  rintro ⟨other, ord⟩
  rw [mem_siblings, mem_siblings]
  constructor
  · rintro ⟨new, found, below, value, different⟩
    obtain ⟨old, stored, same, _⟩ := modify_cases retains found
    exact ⟨old, stored, same.parentId.symm.trans below, same.ord.symm.trans value, different⟩
  · rintro ⟨old, stored, below, value, different⟩
    obtain ⟨new, found, same⟩ := get?_of_modify id retains stored
    exact ⟨new, found, same.parentId.trans below, same.ord.trans value, different⟩

theorem Sound.change (sound : Sound born rows) {change : Row ω → Row ω} (notRoot : id ≠ rootId)
    (retains : ∀ old, Retains old (change old))
    (furnished : ∀ old, rows.get? id = some old → Furnished (change old)) : Sound born (rows.modify id change) := by
  have origin : ∀ other, Keyed.contains (rows.modify id change) other = true → rows.contains other = true := by
    intro other present
    obtain ⟨new, found⟩ := Keyed.contains_iff.mp present
    obtain ⟨old, stored, _⟩ := modify_cases retains found
    exact Keyed.contains_iff.mpr ⟨old, stored⟩
  refine ⟨?rooted, ?housed, ?anchored, ?furnished, ?spaced, ?named⟩
  case rooted =>
    rw [Keyed.get?_modify, if_neg notRoot, sound.rooted]
  case housed =>
    intro other new found notRoot
    obtain ⟨old, stored, same, _⟩ := modify_cases retains found
    obtain ⟨parent, below, folder, folderStored, kind⟩ := sound.housed other old stored notRoot
    obtain ⟨later, laterFound, laterSame⟩ := get?_of_modify id retains folderStored
    exact ⟨parent, same.parentId.trans below, later, laterFound, laterSame.kind.trans kind⟩
  case anchored =>
    intro other present
    have path := sound.anchored other (origin other present)
    exact ReflTransGen.mono (fun a b step => (under_modify retains).mpr step) _ _ path
  case furnished =>
    intro other new found
    obtain ⟨old, stored, _, rfl | ⟨rfl, rfl⟩⟩ := modify_cases retains found
    · exact sound.furnished other new stored
    · exact furnished old stored
  case spaced =>
    intro parent
    rw [siblings_modify retains]
    exact sound.spaced parent
  case named =>
    intro other present
    exact sound.named other (origin other present)

end Bookmarks.Rows
