import Bookmarks.Proofs.Store.Applied

/-!
What the lists of children become when nodes are added. The children that were there keep their order, and the tabs of
a session stand in the new folder in theirs.
-/
set_option autoImplicit false

namespace Bookmarks

variable {ω : Type} [LinearOrder ω] [SiblingOrd ω] [AscendingOrd ω]

namespace Rows

variable {rows : Rows ω} {id : String}

omit [LinearOrder ω] [AscendingOrd ω] in
theorem without_absent (absent : rows.get? id = none) (parent : String) :
    (rows.childIds parent).filter (· != id) = rows.childIds parent := by
  apply List.filter_eq_self.mpr
  intro child member
  obtain ⟨row, stored, _⟩ := mem_child_ids.mp member
  have different : child ≠ id := by
    rintro rfl
    rw [absent] at stored
    cases stored
  simpa using different

omit [LinearOrder ω] [SiblingOrd ω] [AscendingOrd ω] in
theorem get?_put_all {entries : List (String × Row ω)} (nodup : (entries.map (·.1)).Nodup) (id : String) :
    (rows.putAll entries).get? id = (Keyed.lookup id entries).or (rows.get? id) := by
  rw [putAll, Keyed.get?_foldl_insert, Keyed.lookup_perm nodup (List.reverse_perm entries).symm]

end Rows

namespace Transaction

variable {t next : Transaction ω} {now : Int} {parent title folder : String} {kind : Kind} {url : Option String}
  {index : Option Int} {ord : ω} {rows : Rows ω}

theorem Added.reordered (added : Added t now parent kind title url index ord rows next)
    (absent : t.rows.get? (t.nextId now) = none) : Rows.Reordered t.rows parent (some (t.nextId now)) rows :=
  (Rows.reordered_of_ok added.found).of_absent absent

-- Without the new node the children are those that were there.
theorem Added.child_ids_others (added : Added t now parent kind title url index ord rows next)
    (absent : t.rows.get? (t.nextId now) = none) (other : String) :
    (next.rows.childIds other).filter (· != t.nextId now) = t.rows.childIds other := by
  rw [added.result, Rows.child_ids_others (added.reordered absent), Rows.without_absent absent]

theorem Added.child_ids_elsewhere (added : Added t now parent kind title url index ord rows next)
    (absent : t.rows.get? (t.nextId now) = none) {other : String} (elsewhere : other ≠ parent) :
    next.rows.childIds other = t.rows.childIds other := by
  rw [added.result]
  exact (Rows.child_ids_elsewhere (added.reordered absent) rfl elsewhere).trans (Rows.without_absent absent other)

theorem Added.fresh (added : Added t now parent kind title url index ord rows next) {count : Nat}
    (fresh : Fresh t.rows (t.ids.made now (count + 1))) : Fresh next.rows (next.ids.made now count) := by
  obtain ⟨ordOf, reordered⟩ := (Rows.reordered_of_ok added.found).reordered
  rw [IdSource.made_succ] at fresh
  rw [added.result, reordered]
  exact (fresh.reord parent none ordOf).insert _

theorem child_ids_tabs_elsewhere {source : IdSource} {number : Nat} {tabs : List Tab}
    (fresh : Fresh rows (source.made now tabs.length)) {other : String} (elsewhere : other ≠ folder) :
    (rows.putAll (tabRows now folder source number tabs)).childIds other = rows.childIds other := by
  induction tabs generalizing rows source number with
  | nil => rfl
  | cons tab rest ih =>
      rw [List.length_cons, IdSource.made_succ] at fresh
      have apart : (newRow now folder .bookmark tab.title (some tab.url) (SiblingOrd.ofNat number : ω)).parentId ≠ some other :=
        fun same => elsewhere (Option.some.inj same).symm
      refine (ih (fresh.insert _)).trans ?_
      rw [Rows.childIds, Rows.siblings_insert_elsewhere apart, Rows.siblings_without_absent fresh.first,
        Rows.childIds]

-- The ords of the children so far are below `number`, so each tab goes to the end.
theorem child_ids_tabs {source : IdSource} {number : Nat} {tabs : List Tab}
    (fresh : Fresh rows (source.made now tabs.length))
    (below : ∀ entry ∈ rows.siblings folder none, entry.2 < SiblingOrd.ofNat number) :
    (rows.putAll (tabRows now folder source number tabs)).childIds folder =
      rows.childIds folder ++ source.made now tabs.length := by
  induction tabs generalizing rows source number with
  | nil => exact (List.append_nil _).symm
  | cons tab rest ih =>
      rw [List.length_cons, IdSource.made_succ] at fresh
      have absent := fresh.first
      let row := newRow now folder .bookmark tab.title (some tab.url) (SiblingOrd.ofNat number : ω)
      have allocated : Rows.Allocated rows folder none (some (source.advance now).text) (SiblingOrd.ofNat number) rows :=
        Rows.allocated_at_end absent below
      have list : Rows.childIds (rows.insert (source.advance now).text row) folder =
          rows.childIds folder ++ [(source.advance now).text] := by
        rw [Rows.child_ids_place allocated rfl rfl, if_pos rfl, Rows.without_absent absent, Order.insertionPosition,
          List.insertIdx_length_self]
      refine (ih (fresh.insert row) (Rows.below_next row absent below rfl rfl)).trans ?_
      rw [list, List.length_cons, IdSource.made_succ, List.append_assoc]
      rfl

end Transaction

end Bookmarks
