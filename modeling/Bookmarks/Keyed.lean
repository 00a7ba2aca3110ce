/-!
Tables of values under names, kept in the ascending order of the names. Two tables with the same
value under every name are equal (`ext_get?`).
-/
set_option autoImplicit false

namespace Bookmarks

-- Values under names, in the ascending order of the names.
structure Keyed (α : Type) where
  entries : List (String × α)
  ascending : entries.Pairwise fun a b => a.1 < b.1

namespace Keyed

variable {α β : Type}

def lookup (key : String) : List (String × α) → Option α
  | [] => none
  | (k, v) :: rest => if k = key then some v else lookup key rest

def place (key : String) (value : α) : List (String × α) → List (String × α)
  | [] => [(key, value)]
  | (k, v) :: rest =>
    if key < k then (key, value) :: (k, v) :: rest
    else if k = key then (key, value) :: rest
    else (k, v) :: place key value rest

theorem mem_place {key : String} {value : α} {entries : List (String × α)} {entry : String × α}
    (member : entry ∈ place key value entries) : entry = (key, value) ∨ entry ∈ entries := by
  induction entries with
  | nil => simpa [place] using member
  | cons head rest ih =>
    unfold place at member
    split at member
    · simpa using member
    split at member
    · simp only [List.mem_cons] at member ⊢
      rcases member with same | later
      · exact .inl same
      · exact .inr (.inr later)
    · simp only [List.mem_cons] at member ⊢
      rcases member with same | later
      · exact .inr (.inl same)
      · exact (ih later).imp_right .inr

theorem place_ascending {key : String} {value : α} {entries : List (String × α)}
    (ascending : entries.Pairwise fun a b => a.1 < b.1) :
    (place key value entries).Pairwise fun a b => a.1 < b.1 := by
  induction entries with
  | nil => simp [place]
  | cons head rest ih =>
    have above := List.pairwise_cons.1 ascending
    unfold place
    split
    · rename_i below
      refine List.pairwise_cons.2 ⟨fun entry member => ?_, ascending⟩
      rcases List.mem_cons.1 member with rfl | later
      · exact below
      · exact String.lt_trans below (above.1 entry later)
    split
    · rename_i same
      exact List.pairwise_cons.2 ⟨fun entry member => same ▸ above.1 entry member, above.2⟩
    · rename_i notBelow different
      refine List.pairwise_cons.2 ⟨fun entry member => ?_, ih above.2⟩
      rcases mem_place member with rfl | later
      · rcases Std.lt_trichotomy key head.1 with less | same | more
        · exact absurd less notBelow
        · exact absurd same.symm different
        · exact more
      · exact above.1 entry later

theorem filter_ascending {entries : List (String × α)} (keep : String × α → Bool)
    (ascending : entries.Pairwise fun a b => a.1 < b.1) :
    (entries.filter keep).Pairwise fun a b => a.1 < b.1 :=
  ascending.filter keep

def empty : Keyed α := ⟨[], .nil⟩

instance : EmptyCollection (Keyed α) := ⟨empty⟩
instance : Inhabited (Keyed α) := ⟨empty⟩

def get? (table : Keyed α) (key : String) : Option α := lookup key table.entries

def contains (table : Keyed α) (key : String) : Bool := (table.get? key).isSome

def insert (table : Keyed α) (key : String) (value : α) : Keyed α :=
  ⟨place key value table.entries, place_ascending table.ascending⟩

def erase (table : Keyed α) (key : String) : Keyed α :=
  ⟨table.entries.filter fun entry => entry.1 != key, filter_ascending _ table.ascending⟩

-- Of entries under one name the last counts.
def ofList (entries : List (String × α)) : Keyed α :=
  entries.foldl (fun table entry => table.insert entry.1 entry.2) ∅

def keys (table : Keyed α) : List String := table.entries.map (·.1)

def values (table : Keyed α) : List α := table.entries.map (·.2)

def size (table : Keyed α) : Nat := table.entries.length

def map (f : String → α → β) (table : Keyed α) : Keyed β :=
  ⟨table.entries.map fun entry => (entry.1, f entry.1 entry.2), by
    simpa [List.pairwise_map] using table.ascending⟩

def modify (table : Keyed α) (key : String) (f : α → α) : Keyed α :=
  match table.get? key with
  | some value => table.insert key (f value)
  | none => table

theorem lookup_place (key other : String) (value : α) (entries : List (String × α)) :
    lookup other (place key value entries) =
      if key = other then some value else lookup other entries := by
  induction entries with
  | nil => simp [place, lookup]
  | cons head rest ih =>
    unfold place
    split
    · simp [lookup]
    split
    · rename_i same
      subst same
      by_cases equal : head.1 = other <;> simp [lookup, equal]
    · rename_i different
      by_cases equal : head.1 = other
      · subst equal
        simp [lookup, Ne.symm different]
      · simp [lookup, equal, ih]

theorem get?_insert (table : Keyed α) (key other : String) (value : α) :
    (table.insert key value).get? other = if key = other then some value else table.get? other :=
  lookup_place key other value table.entries

theorem lookup_filter (key other : String) (entries : List (String × α)) :
    lookup other (entries.filter fun entry => entry.1 != key) =
      if key = other then none else lookup other entries := by
  induction entries with
  | nil => simp [lookup]
  | cons head rest ih =>
    by_cases same : head.1 = key
    · by_cases equal : key = other
      · simp_all
      · simp_all [lookup]
    · by_cases equal : head.1 = other
      · subst equal
        simp [lookup, same, Ne.symm same]
      · simp_all [lookup]

theorem get?_erase (table : Keyed α) (key other : String) :
    (table.erase key).get? other = if key = other then none else table.get? other :=
  lookup_filter key other table.entries

theorem lookup_eq_some_iff {entries : List (String × α)}
    (ascending : entries.Pairwise fun a b => a.1 < b.1) {key : String} {value : α} :
    lookup key entries = some value ↔ (key, value) ∈ entries := by
  induction entries with
  | nil => simp [lookup]
  | cons head rest ih =>
    have above := List.pairwise_cons.1 ascending
    by_cases same : head.1 = key
    · subst same
      constructor
      · intro found
        simp only [lookup, if_true, Option.some.injEq] at found
        exact List.mem_cons.2 (.inl (by rw [← found]))
      · intro member
        rcases List.mem_cons.1 member with here | later
        · have equal : head.2 = value := (congrArg Prod.snd here).symm
          simp [lookup, equal]
        · exact absurd (above.1 _ later) (String.lt_irrefl _)
    · simp only [lookup, same, if_false, ih above.2, List.mem_cons]
      constructor
      · exact .inr
      · rintro (here | later)
        · exact absurd (congrArg Prod.fst here).symm same
        · exact later

theorem get?_eq_some_iff {table : Keyed α} {key : String} {value : α} :
    table.get? key = some value ↔ (key, value) ∈ table.entries :=
  lookup_eq_some_iff table.ascending

theorem size_erase_lt {table : Keyed α} {key : String} {value : α}
    (found : table.get? key = some value) : (table.erase key).size < table.size :=
  List.length_filter_lt_length_iff_exists.2 ⟨_, get?_eq_some_iff.1 found, by simp⟩

theorem entries_eq_of_mem {left right : List (String × α)}
    (leftAscending : left.Pairwise fun a b => a.1 < b.1)
    (rightAscending : right.Pairwise fun a b => a.1 < b.1)
    (same : ∀ entry, entry ∈ left ↔ entry ∈ right) : left = right := by
  induction left generalizing right with
  | nil =>
    cases right with
    | nil => rfl
    | cons head rest => exact absurd ((same head).2 (List.mem_cons_self ..)) List.not_mem_nil
  | cons head rest ih =>
    cases right with
    | nil => exact absurd ((same head).1 (List.mem_cons_self ..)) List.not_mem_nil
    | cons other more =>
      have aboveHead := List.pairwise_cons.1 leftAscending
      have aboveOther := List.pairwise_cons.1 rightAscending
      have equal : head = other := by
        rcases List.mem_cons.1 ((same head).1 (List.mem_cons_self ..)) with here | later
        · exact here
        rcases List.mem_cons.1 ((same other).2 (List.mem_cons_self ..)) with here | above
        · exact here.symm
        · exact absurd (String.lt_trans (aboveOther.1 _ later) (aboveHead.1 _ above))
            (String.lt_irrefl _)
      subst equal
      refine congrArg _ (ih aboveHead.2 aboveOther.2 fun entry => ?_)
      constructor
      · intro member
        rcases List.mem_cons.1 ((same entry).1 (List.mem_cons_of_mem _ member)) with rfl | found
        · exact absurd (aboveHead.1 _ member) (String.lt_irrefl _)
        · exact found
      · intro member
        rcases List.mem_cons.1 ((same entry).2 (List.mem_cons_of_mem _ member)) with rfl | found
        · exact absurd (aboveOther.1 _ member) (String.lt_irrefl _)
        · exact found

theorem ext_get? {left right : Keyed α} (same : ∀ key, left.get? key = right.get? key) :
    left = right := by
  obtain ⟨entries, ascending⟩ := left
  obtain ⟨others, ascending'⟩ := right
  have equal : entries = others := entries_eq_of_mem ascending ascending' fun entry => by
    have here := same entry.1
    constructor
    · intro member
      exact (lookup_eq_some_iff ascending').1
        (here.symm.trans ((lookup_eq_some_iff ascending).2 member))
    · intro member
      exact (lookup_eq_some_iff ascending).1
        (here.trans ((lookup_eq_some_iff ascending').2 member))
  subst equal
  rfl

end Keyed

end Bookmarks
