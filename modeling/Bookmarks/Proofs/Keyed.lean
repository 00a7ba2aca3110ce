import Bookmarks.Keyed
import Mathlib.Algebra.GroupWithZero.Nat

/-!
What the operations on tables do to the value under each name.
-/
set_option autoImplicit false

namespace Bookmarks.Keyed

variable {α β : Type}

theorem get?_empty (key : String) : (∅ : Keyed α).get? key = none := rfl

theorem contains_iff {table : Keyed α} {key : String} :
    table.contains key = true ↔ ∃ value, table.get? key = some value := by
  simp [contains, Option.isSome_iff_exists]

theorem not_contains_iff {table : Keyed α} {key : String} :
    ¬ table.contains key = true ↔ table.get? key = none := by
  simp [contains]

theorem get?_modify (table : Keyed α) (key other : String) (f : α → α) :
    (table.modify key f).get? other =
      if key = other then (table.get? key).map f else table.get? other := by
  unfold modify
  cases found : table.get? key with
  | some value => simp [get?_insert]
  | none =>
      by_cases same : key = other
      · subst same
        simp [found]
      · simp [same]

theorem contains_modify (table : Keyed α) (key other : String) (f : α → α) :
    (table.modify key f).contains other = table.contains other := by
  rw [contains, get?_modify, contains]
  split
  · rename_i same
    rw [same, Option.isSome_map]
  · rfl

theorem contains_insert {table : Keyed α} {other : String} (key : String) (value : α)
    (there : table.contains other = true) : (table.insert key value).contains other = true := by
  rw [contains, get?_insert]
  split
  · rfl
  · exact there

theorem keys_ascending (table : Keyed α) : table.keys.Pairwise (· < ·) :=
  List.pairwise_map.mpr table.ascending

theorem keys_nodup (table : Keyed α) : table.keys.Nodup := by
  refine (keys_ascending table).imp ?_
  intro a b less same
  exact String.lt_irrefl _ (same ▸ less)

theorem mem_keys {table : Keyed α} {key : String} : key ∈ table.keys ↔ ∃ value, table.get? key = some value := by
  simp [keys, get?_eq_some_iff]

theorem mem_values {table : Keyed α} {value : α} : value ∈ table.values ↔ ∃ key, table.get? key = some value := by
  simp [values, get?_eq_some_iff]

theorem lookup_map (f : String → α → β) (key : String) (entries : List (String × α)) :
    lookup key (entries.map fun entry => (entry.1, f entry.1 entry.2)) =
      (lookup key entries).map (f key) := by
  induction entries with
  | nil => rfl
  | cons head rest ih =>
      by_cases same : head.1 = key
      · subst same
        simp [lookup]
      · simp [lookup, same, ih]

theorem get?_map (table : Keyed α) (f : String → α → β) (key : String) :
    (table.map f).get? key = (table.get? key).map (f key) :=
  lookup_map f key table.entries

theorem lookup_append (key : String) (left right : List (String × α)) :
    lookup key (left ++ right) = (lookup key left).or (lookup key right) := by
  induction left with
  | nil => rfl
  | cons head rest ih =>
      by_cases same : head.1 = key <;> simp [lookup, same, ih]

theorem get?_foldl_insert (entries : List (String × α)) (table : Keyed α) (key : String) :
    (entries.foldl (fun table entry => table.insert entry.1 entry.2) table).get? key =
      (lookup key entries.reverse).or (table.get? key) := by
  induction entries generalizing table with
  | nil => rfl
  | cons head rest ih =>
      rw [List.foldl_cons, ih, get?_insert, List.reverse_cons, lookup_append, Option.or_assoc]
      by_cases same : head.1 = key <;> simp [lookup, same]

theorem get?_of_list (entries : List (String × α)) (key : String) :
    (ofList entries).get? key = lookup key entries.reverse := by
  rw [ofList, get?_foldl_insert, get?_empty, Option.or_none]

theorem mem_of_lookup {key : String} {value : α} {entries : List (String × α)}
    (found : lookup key entries = some value) : (key, value) ∈ entries := by
  induction entries with
  | nil => simp [lookup] at found
  | cons head rest ih =>
      by_cases same : head.1 = key
      · subst same
        simp only [lookup, if_true, Option.some.injEq] at found
        subst found
        exact List.mem_cons_self
      · simp only [lookup, same, if_false] at found
        exact List.mem_cons_of_mem _ (ih found)

theorem lookup_eq_none_iff {key : String} {entries : List (String × α)} :
    lookup key entries = none ↔ ∀ value, (key, value) ∉ entries := by
  constructor
  · intro missing value member
    induction entries with
    | nil => simp at member
    | cons head rest ih =>
        by_cases same : head.1 = key
        · simp [lookup, same] at missing
        · simp only [lookup, same, if_false] at missing
          rcases List.mem_cons.mp member with here | later
          · exact same (congrArg Prod.fst here).symm
          · exact ih missing later
  · intro absent
    cases found : lookup key entries with
    | none => rfl
    | some value => exact absurd (mem_of_lookup found) (absent value)

theorem mem_of_get?_of_list {key : String} {value : α} {entries : List (String × α)}
    (found : (ofList entries).get? key = some value) : (key, value) ∈ entries := by
  rw [get?_of_list] at found
  exact List.mem_reverse.mp (mem_of_lookup found)

-- A list in which a name stands for one value only is a table of these values.
theorem get?_of_list_of_unique {key : String} {value : α} {entries : List (String × α)}
    (member : (key, value) ∈ entries) (unique : ∀ other, (key, other) ∈ entries → other = value) :
    (ofList entries).get? key = some value := by
  rw [get?_of_list]
  cases found : lookup key entries.reverse with
  | none => exact absurd (List.mem_reverse.mpr member) (lookup_eq_none_iff.mp found value)
  | some other => rw [unique other (List.mem_reverse.mp (mem_of_lookup found))]

theorem get?_of_list_eq_none {key : String} {entries : List (String × α)}
    (absent : ∀ value, (key, value) ∉ entries) : (ofList entries).get? key = none := by
  rw [get?_of_list]
  exact lookup_eq_none_iff.mpr fun value member => absent value (List.mem_reverse.mp member)

theorem mem_keys_of_list {key : String} {entries : List (String × α)} :
    key ∈ (ofList entries).keys ↔ ∃ value, (key, value) ∈ entries := by
  rw [mem_keys]
  constructor
  · rintro ⟨value, found⟩
    exact ⟨value, mem_of_get?_of_list found⟩
  · rintro ⟨value, member⟩
    rw [get?_of_list]
    cases found : lookup key entries.reverse with
    | some other => exact ⟨other, rfl⟩
    | none => exact absurd (List.mem_reverse.mpr member) (lookup_eq_none_iff.mp found value)

theorem erase_absent {table : Keyed α} {key : String} (absent : table.get? key = none) : table.erase key = table := by
  apply ext_get?
  intro other
  rw [get?_erase]
  split
  · rename_i same
    rw [← same, absent]
  · rfl

-- What the values amount to together is what one of them amounts to and what the others do.
theorem sum_erase (weight : α → Nat) (table : Keyed α) (key : String) :
    (table.values.map weight).sum =
      ((table.get? key).map weight).getD 0 + ((table.erase key).values.map weight).sum := by
  obtain ⟨entries, ascending⟩ := table
  simp only [values, get?, erase, List.map_map]
  induction entries with
  | nil => rfl
  | cons head rest ih =>
      obtain ⟨above, later⟩ := List.pairwise_cons.mp ascending
      by_cases same : head.1 = key
      · have others : rest.filter (fun entry => entry.1 != key) = rest := by
          apply List.filter_eq_self.mpr
          intro entry member
          have different : entry.1 ≠ key := by
            intro again
            have less := above entry member
            rw [same, again] at less
            exact String.lt_irrefl key less
          simp [different]
        simp [lookup, same, others]
      · have below := ih later
        simp only [lookup, same, List.map_cons, List.sum_cons, List.filter_cons, bne_iff_ne, ne_eq, if_false,
          not_false_eq_true, if_true] at below ⊢
        omega

theorem of_list_entries (table : Keyed α) : ofList table.entries = table := by
  apply ext_get?
  intro key
  cases stored : table.get? key with
  | none =>
      apply get?_of_list_eq_none
      intro value member
      rw [get?_eq_some_iff.mpr member] at stored
      cases stored
  | some value =>
      apply get?_of_list_of_unique (get?_eq_some_iff.mp stored)
      intro other member
      rw [get?_eq_some_iff.mpr member] at stored
      exact Option.some.inj stored

-- A table that is written over another one is what is found then.
theorem get?_of_inserted {table : Keyed α} {key : String} {value : α} (found : table.get? key = some value)
    (under : Keyed α) :
    (table.entries.foldl (fun table entry => table.insert entry.1 entry.2) under).get? key = some value := by
  rw [get?_foldl_insert]
  cases listed : lookup key table.entries.reverse with
  | none =>
      have absent := lookup_eq_none_iff.mp listed value
      exact absurd (List.mem_reverse.mpr (get?_eq_some_iff.mp found)) absent
  | some other =>
      have same := get?_eq_some_iff.mpr (List.mem_reverse.mp (mem_of_lookup listed))
      rw [found] at same
      exact same.symm

-- A list of what a table holds, each value changed, is that table with its values changed.
theorem of_list_eq_map {entries : List (String × β)} {table : Keyed α} {f : String → α → β}
    (listed : ∀ key value, (key, value) ∈ entries ↔ ∃ old, table.get? key = some old ∧ value = f key old) :
    ofList entries = table.map f := by
  apply ext_get?
  intro key
  rw [get?_map]
  cases stored : table.get? key with
  | none =>
      apply get?_of_list_eq_none
      intro value member
      obtain ⟨old, found, _⟩ := (listed key value).mp member
      rw [stored] at found
      cases found
  | some old =>
      apply get?_of_list_of_unique ((listed key (f key old)).mpr ⟨old, stored, rfl⟩)
      intro other member
      obtain ⟨same, found, rfl⟩ := (listed key other).mp member
      rw [stored] at found
      rw [← Option.some.inj found]

theorem lookup_iff_of_nodup {key : String} {value : α} {entries : List (String × α)}
    (nodup : (entries.map (·.1)).Nodup) : lookup key entries = some value ↔ (key, value) ∈ entries := by
  constructor
  · exact mem_of_lookup
  · intro member
    induction entries with
    | nil => simp at member
    | cons head rest ih =>
        obtain ⟨fresh, nodup⟩ := List.nodup_cons.mp nodup
        rcases List.mem_cons.mp member with here | later
        · subst here
          simp [lookup]
        · have different : head.1 ≠ key := by
            intro same
            exact fresh (List.mem_map.mpr ⟨(key, value), later, same.symm⟩)
          simpa [lookup, different] using ih nodup later

theorem lookup_perm {key : String} {left right : List (String × α)} (once : (left.map (·.1)).Nodup)
    (perm : left.Perm right) : lookup key left = lookup key right := by
  apply Option.ext
  intro value
  rw [lookup_iff_of_nodup once, lookup_iff_of_nodup ((perm.map (·.1)).nodup_iff.mp once), perm.mem_iff]

-- Takes over what another table has under a name, also if that is nothing.
def adopt (other table : Keyed α) (key : String) : Keyed α :=
  match other.get? key with
  | some value => table.insert key value
  | none => table.erase key

theorem get?_adopt (other table : Keyed α) (key found : String) :
    (adopt other table key).get? found = if key = found then other.get? key else table.get? found := by
  unfold adopt
  cases there : other.get? key with
  | none => rw [get?_erase]
  | some value => rw [get?_insert]

-- What is under a name after one value after the other was put, or taken away, is what was put there.
theorem get?_foldl {value : String → Option α} {step : Keyed α → String → Keyed α}
    (puts : ∀ table key found, (step table key).get? found = if key = found then value key else table.get? found)
    (table : Keyed α) (keys : List String) (found : String) :
    (keys.foldl step table).get? found = if found ∈ keys then value found else table.get? found := by
  induction keys generalizing table with
  | nil => rfl
  | cons key rest ih =>
      rw [List.foldl_cons, ih, puts]
      by_cases later : found ∈ rest
      · rw [if_pos later, if_pos (List.mem_cons_of_mem key later)]
      · by_cases here : key = found
        · subst here
          rw [if_neg later, if_pos rfl, if_pos List.mem_cons_self]
        · have nowhere : found ∉ key :: rest := by
            intro member
            rcases List.mem_cons.mp member with same | listed
            · exact here same.symm
            · exact later listed
          rw [if_neg later, if_neg here, if_neg nowhere]

theorem get?_foldl_adopt (other table : Keyed α) (keys : List String) (found : String) :
    (keys.foldl (adopt other) table).get? found = if found ∈ keys then other.get? found else table.get? found :=
  get?_foldl (get?_adopt other) table keys found

end Bookmarks.Keyed
