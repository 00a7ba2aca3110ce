import Bookmarks.Proofs.Rows.Sound
import Mathlib.Data.Option.Basic

/-!
Rows that are the same up to their ids and their times. Siblings with ords of their own stand in the same order
(`Alike.siblings`), and what a statement does to such rows leaves them alike.
-/
set_option autoImplicit false

namespace Bookmarks

open Relation (ReflTransGen)

variable {ω : Type}

-- The second row is the first one, its parent renamed, whatever their times are.
structure Row.Like (f : Equiv.Perm String) (left right : Row ω) : Prop where
  kind : right.kind = left.kind
  title : right.title = left.title
  url : right.url = left.url
  parentId : right.parentId = left.parentId.map f
  ord : right.ord = left.ord

namespace Rows

def Alike (f : Equiv.Perm String) (left right : Rows ω) : Prop :=
  ∀ id, Option.Rel (Row.Like f) (left.get? id) (right.get? (f id))

-- The parents of rows are rows.
def Closed (rows : Rows ω) : Prop := ∀ id parent, rows.Under id parent → rows.contains parent = true

theorem Closed.insert {rows : Rows ω} {id parent : String} {row : Row ω} (closed : Closed rows)
    (below : row.parentId = some parent) (there : rows.contains parent = true) : Closed (rows.insert id row) := by
  rintro child upper ⟨new, stored, above⟩
  rw [Keyed.get?_insert] at stored
  split at stored
  · rw [← Option.some.inj stored, below] at above
    rw [← Option.some.inj above]
    exact Keyed.contains_insert id row there
  · exact Keyed.contains_insert id row (closed child upper ⟨new, stored, above⟩)

namespace Alike

variable {f g : Equiv.Perm String} {left right : Rows ω} {id parent : String} {row other : Row ω}
  {omitted : Option String} {index : Option Int} {ord : ω} {after : Rows ω}

theorem refl (rows : Rows ω) : Alike (Equiv.refl String) rows rows := by
  intro id
  rw [Equiv.refl_apply]
  cases rows.get? id with
  | none => exact .none
  | some row => exact .some ⟨rfl, rfl, rfl, by simp, rfl⟩

theorem row_of_left (alike : Alike f left right) (stored : left.get? id = some row) :
    ∃ other, right.get? (f id) = some other ∧ row.Like f other := by
  have same := alike id
  rw [stored] at same
  cases found : right.get? (f id) with
  | none =>
      rw [found] at same
      cases same
  | some other =>
      rw [found] at same
      cases same with
      | some like => exact ⟨other, rfl, like⟩

theorem row_of_right (alike : Alike f left right) (stored : right.get? (f id) = some other) :
    ∃ row, left.get? id = some row ∧ row.Like f other := by
  have same := alike id
  rw [stored] at same
  cases found : left.get? id with
  | none =>
      rw [found] at same
      cases same
  | some row =>
      rw [found] at same
      cases same with
      | some like => exact ⟨row, rfl, like⟩

theorem contains (alike : Alike f left right) (id : String) : right.contains (f id) = left.contains id := by
  rw [Bool.eq_iff_iff, Keyed.contains_iff, Keyed.contains_iff]
  constructor
  · rintro ⟨other, stored⟩
    obtain ⟨row, found, _⟩ := alike.row_of_right stored
    exact ⟨row, found⟩
  · rintro ⟨row, stored⟩
    obtain ⟨other, found, _⟩ := alike.row_of_left stored
    exact ⟨other, found⟩

theorem absent_iff (alike : Alike f left right) (id : String) : right.get? (f id) = none ↔ left.get? id = none := by
  rw [← Keyed.not_contains_iff, ← Keyed.not_contains_iff, alike.contains]

theorem like_below (like : row.Like f other) : other.parentId = some (f parent) ↔ row.parentId = some parent := by
  rw [like.parentId, Option.map_eq_some_iff]
  constructor
  · rintro ⟨upper, above, same⟩
    rw [above, f.injective same]
  · intro below
    exact ⟨parent, below, rfl⟩

theorem under_iff (alike : Alike f left right) (a b : String) : right.Under (f a) (f b) ↔ left.Under a b := by
  constructor
  · rintro ⟨other, stored, below⟩
    obtain ⟨row, found, like⟩ := alike.row_of_right stored
    exact ⟨row, found, (like_below like).mp below⟩
  · rintro ⟨row, stored, below⟩
    obtain ⟨other, found, like⟩ := alike.row_of_left stored
    exact ⟨other, found, (like_below like).mpr below⟩

-- Only the names of rows matter.
theorem congr (alike : Alike f left right) (closed : Closed left)
    (agree : ∀ id, left.contains id = true → g id = f id) : Alike g left right := by
  intro id
  cases stored : left.get? id with
  | none =>
      have missing : right.get? (g id) = none :=
        Keyed.not_contains_iff.mp (renamed_outside alike.contains agree (Keyed.not_contains_iff.mpr stored))
      rw [missing]
      exact .none
  | some row =>
      obtain ⟨other, found, like⟩ := alike.row_of_left stored
      rw [agree id (Keyed.contains_iff.mpr ⟨row, stored⟩), found]
      refine .some ⟨like.kind, like.title, like.url, ?_, like.ord⟩
      rw [like.parentId]
      apply Option.map_congr
      intro upper above
      exact (agree upper (closed id upper ⟨row, stored, above⟩)).symm

theorem reord (alike : Alike f left right) (parent : String) (omitted : Option String) {ordOf ordOfRight : String → ω}
    (same : ∀ id, ordOfRight (f id) = ordOf id) :
    Alike f (left.reord parent omitted ordOf) (right.reord (f parent) (omitted.map f) ordOfRight) := by
  intro id
  rw [get?_reord, get?_reord]
  cases stored : left.get? id with
  | none =>
      rw [(alike.absent_iff id).mpr stored]
      exact .none
  | some row =>
      obtain ⟨other, found, like⟩ := alike.row_of_left stored
      simp only [found, Option.map_some, like_below like, some_ne_map_iff]
      split
      · exact .some ⟨like.kind, like.title, like.url, like.parentId, same id⟩
      · exact .some like

theorem lookup_renamed (f : Equiv.Perm String) (entries : List (String × ω)) (id : String) :
    Keyed.lookup (f id) (entries.map fun entry => (f entry.1, entry.2)) = Keyed.lookup id entries := by
  induction entries with
  | nil => rfl
  | cons head rest ih => simp [Keyed.lookup, ih, f.injective.eq_iff]

theorem insert (alike : Alike f left right) (like : row.Like f other) :
    Alike f (left.insert id row) (right.insert (f id) other) := by
  intro name
  rw [Keyed.get?_insert, Keyed.get?_insert]
  by_cases same : id = name
  · rw [if_pos same, if_pos (congrArg f same)]
    exact .some like
  · rw [if_neg same, if_neg fun equal => same (f.injective equal)]
    exact alike name

theorem modify (alike : Alike f left right) {change changeRight : Row ω → Row ω}
    (same : ∀ row other : Row ω, row.Like f other → (change row).Like f (changeRight other)) :
    Alike f (left.modify id change) (right.modify (f id) changeRight) := by
  intro name
  rw [Keyed.get?_modify, Keyed.get?_modify]
  by_cases here : id = name
  · rw [if_pos here, if_pos (congrArg f here)]
    cases stored : left.get? id with
    | none =>
        rw [(alike.absent_iff id).mpr stored]
        exact .none
    | some row =>
        obtain ⟨other, found, like⟩ := alike.row_of_left stored
        rw [found]
        exact .some (same row other like)
  · rw [if_neg here, if_neg fun equal => here (f.injective equal)]
    exact alike name

theorem remove (alike : Alike f left right) (id : String) : Alike f (left.removeAll [id]) (right.removeAll [f id]) := by
  have doomed_iff : ∀ name, Doomed right [f id] (f name) ↔ Doomed left [id] name := by
    intro name
    rw [doomed_one_iff, doomed_one_iff, alike.contains]
    exact and_congr_right fun _ => reaches_renamed f alike.under_iff
  intro name
  obtain ⟨gone, kept⟩ := get?_removeAll left [id] name
  obtain ⟨goneRight, keptRight⟩ := get?_removeAll right [f id] (f name)
  by_cases doomed : Doomed left [id] name
  · rw [gone doomed, goneRight ((doomed_iff name).mpr doomed)]
    exact .none
  · rw [kept doomed, keptRight fun lost => doomed ((doomed_iff name).mp lost)]
    exact alike name

-- New rows are named after each other.
theorem insert_new (alike : Alike f left right) (closed : Closed left) {new newRight : String}
    (absent : left.get? new = none) (absentRight : right.get? newRight = none) (like : row.Like f other)
    (below : row.parentId = some parent) (present : left.contains parent = true) :
    ∃ g, Alike g (left.insert new row) (right.insert newRight other) ∧ g new = newRight ∧
      ∀ id, left.contains id = true → g id = f id := by
  have agree := redirect_agrees alike.contains (Keyed.not_contains_iff.mpr absent)
    (Keyed.not_contains_iff.mpr absentRight)
  have self := redirect_self f new newRight
  have likeNew : row.Like (redirect f new newRight) other := by
    refine ⟨like.kind, like.title, like.url, ?_, like.ord⟩
    rw [like.parentId, below, Option.map_some, Option.map_some, agree parent present]
  have inserted : Alike (redirect f new newRight) (left.insert new row)
      (right.insert (redirect f new newRight new) other) := (alike.congr closed agree).insert likeNew
  rw [self] at inserted
  exact ⟨redirect f new newRight, inserted, self, agree⟩

variable [LinearOrder ω] [SiblingOrd ω] [AscendingOrd ω]

-- The order of siblings is that of their ords, so it does not depend on the ids.
theorem siblings (alike : Alike f left right) (spaced : ((left.siblings parent omitted).map (·.2)).Pairwise (· < ·)) :
    right.siblings (f parent) (omitted.map f) = (left.siblings parent omitted).map fun entry => (f entry.1, entry.2) := by
  refine (eq_siblings ?sorted ?nodup ?same).symm
  case sorted =>
    rw [List.pairwise_map] at spaced ⊢
    refine spaced.imp ?_
    intro a b less
    exact (precedes_iff _ _).mpr (Or.inl less)
  case nodup =>
    refine (siblings_nodup left parent omitted).map ?_
    intro a b same
    obtain ⟨ids, ords⟩ := Prod.mk.inj same
    exact Prod.ext (f.injective ids) ords
  case same =>
    rintro ⟨name, ord⟩
    obtain ⟨id, rfl⟩ := f.surjective name
    have here : (f id, ord) ∈ (left.siblings parent omitted).map (fun entry => (f entry.1, entry.2)) ↔
        (id, ord) ∈ left.siblings parent omitted := by
      simp [f.injective.eq_iff]
    have kept := some_ne_map_iff f id omitted
    rw [here, mem_siblings, mem_siblings]
    constructor
    · rintro ⟨row, stored, below, value, different⟩
      obtain ⟨other, found, like⟩ := alike.row_of_left stored
      exact ⟨other, found, (like_below like).mpr below, like.ord.trans value, kept.mpr different⟩
    · rintro ⟨other, stored, below, value, different⟩
      obtain ⟨row, found, like⟩ := alike.row_of_right stored
      exact ⟨row, found, (like_below like).mp below, like.ord.symm.trans value, kept.mp different⟩

theorem child_ids (alike : Alike f left right) (spaced : Spaced left) (parent : String) :
    right.childIds (f parent) = (left.childIds parent).map f := by
  have same := alike.siblings (spaced parent)
  rw [Option.map_none] at same
  rw [childIds, childIds, same, List.map_map, List.map_map]
  rfl

theorem numbered (alike : Alike f left right) (spaced : ((left.siblings parent omitted).map (·.2)).Pairwise (· < ·)) :
    right.numbered (f parent) (omitted.map f) = (left.numbered parent omitted).map fun entry => (f entry.1, entry.2) := by
  rw [Rows.numbered, Rows.numbered, alike.siblings spaced, List.length_map]
  have ids : ((left.siblings parent omitted).map fun entry => (f entry.1, entry.2)).map (·.1) =
      ((left.siblings parent omitted).map (·.1)).map f := by
    rw [List.map_map, List.map_map]
    rfl
  rw [ids, List.zip_map_left]
  rfl

-- Both get the same ord, whether the siblings have to be numbered anew for it or not.
theorem allocate (alike : Alike f left right) (spaced : ((left.siblings parent omitted).map (·.2)).Pairwise (· < ·))
    (found : left.allocate parent index omitted = .ok (ord, after)) :
    ∃ afterRight, right.allocate (f parent) index (omitted.map f) = .ok (ord, afterRight) ∧
      Alike f after afterRight := by
  have listed := alike.siblings spaced
  have ords : (right.siblings (f parent) (omitted.map f)).map (·.2) = (left.siblings parent omitted).map (·.2) := by
    rw [listed, List.map_map]
    rfl
  have count : (right.siblings (f parent) (omitted.map f)).length = (left.siblings parent omitted).length := by
    rw [listed, List.length_map]
  have numbered : ((right.siblings (f parent) (omitted.map f)).map (·.1)).zip
      (Order.renumbered (left.siblings parent omitted).length) =
      (left.numbered parent omitted).map fun entry => (f entry.1, entry.2) := by
    rw [← alike.numbered spaced, Rows.numbered, count]
  simp only [Rows.allocate, ords, count] at found ⊢
  split at found
  · cases found
    exact ⟨right, rfl, alike⟩
  · split at found
    · cases found
      refine ⟨_, rfl, ?_⟩
      have anew : right.renumber ((left.numbered parent omitted).map fun entry => (f entry.1, entry.2)) =
          right.reord (f parent) (omitted.map f) fun id =>
            (Keyed.lookup id ((left.numbered parent omitted).map fun entry => (f entry.1, entry.2))).getD
              (SiblingOrd.ofNat 0) := by
        rw [← alike.numbered spaced]
        exact renumber_eq_reord right (f parent) (omitted.map f)
      rw [numbered, anew]
      change Alike f (left.renumber (left.numbered parent omitted)) _
      rw [renumber_eq_reord]
      exact alike.reord parent omitted fun id => by rw [lookup_renamed]
    · cases found

end Alike

variable [SiblingOrd ω]

theorem Sound.closed [LinearOrder ω] {born : Int} {rows : Rows ω} (sound : Sound born rows) : Closed rows :=
  fun _ _ step => parent_contained sound step

theorem Reordered.closed {rows after : Rows ω} {parent : String} {left : Option String}
    (reordered : Reordered rows parent left after) (closed : Closed rows) : Closed after := by
  obtain ⟨ordOf, rfl⟩ := reordered.reordered
  rintro child upper ⟨new, stored, above⟩
  rw [get?_reord] at stored
  obtain ⟨old, found, rfl⟩ := Option.map_eq_some_iff.mp stored
  have step : rows.Under child upper := ⟨old, found, by split at above <;> exact above⟩
  rw [contains_reord]
  exact closed child upper step

theorem Reordered.contains {rows after : Rows ω} {parent : String} {left : Option String}
    (reordered : Reordered rows parent left after) (id : String) : after.contains id = rows.contains id := by
  obtain ⟨ordOf, rfl⟩ := reordered.reordered
  exact contains_reord rows parent left ordOf id

end Rows

end Bookmarks
