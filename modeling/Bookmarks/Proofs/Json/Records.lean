import Bookmarks.Json.Decoder
import Bookmarks.Proofs.Keyed
import Bookmarks.Proofs.Outcome

/-!
An object that is read as a record and as a value. Both readings see the same under the name of a field
(`field_of_member`), for a record refuses an object in which a field stands twice.
-/
set_option autoImplicit false

namespace Bookmarks.Json

variable {form : Form} {members : List (Option String × Document)} {values : List (String × Value)} {name : String}

theorem Decoder.of_source_ok {α : Type} {decode : Decoder α} {source : Source} {result : α}
    (read : decode.ofSource source = .ok result) : decode .ofText source.root = .ok result := by
  obtain ⟨found, decoded, ending⟩ := bind_eq_ok.mp read
  cases all : source.isAll with
  | true =>
      rw [all, if_pos rfl] at ending
      cases ending
      exact decoded
  | false =>
      rw [all, if_neg Bool.false_ne_true] at ending
      cases ending

theorem Decoder.closed_ok {α : Type} {ending : Ending} {result found : α}
    (closes : Decoder.closed ending result = .ok found) : found = result := by
  cases ending with
  | closed =>
      cases closes
      rfl
  | broken => cases closes
  | odd other => cases closes

theorem Decoder.mismatch_ne_ok {α : Type} {expected : String} {document : Document} {result : α} :
    Decoder.mismatch expected document ≠ .ok result := by
  unfold Decoder.mismatch
  split <;> exact nofun

theorem Decoder.some_of_option {α : Type} {decode : Decoder α} {document : Document} {result : α}
    (read : Decoder.option decode form document = .ok (some result)) : decode form document = .ok result := by
  unfold Decoder.option at read
  split at read
  · cases read
  · cases decoded : decode form document with
    | error problem =>
        rw [decoded] at read
        cases read
    | ok found =>
        rw [decoded] at read
        cases read
        rfl

-- A value that is an object was one in the document.
theorem Decoder.object_of_value {document : Document} {found : List (String × Value)}
    (read : Decoder.value form document = .ok (.obj found)) :
    ∃ members ending inner values, document = .obj members ending ∧ form.enter = .ok inner ∧
      Decoder.memberValues inner members = .ok values ∧ .obj found = Value.ofMembers values := by
  cases document with
  | obj members ending =>
      obtain ⟨inner, entered, rest⟩ := bind_eq_ok.mp read
      obtain ⟨values, whole, closes⟩ := bind_eq_ok.mp rest
      exact ⟨members, ending, inner, values, rfl, entered, whole, Decoder.closed_ok closes⟩
  | arr items ending =>
      obtain ⟨inner, _, rest⟩ := bind_eq_ok.mp read
      obtain ⟨values, _, closes⟩ := bind_eq_ok.mp rest
      have different := Decoder.closed_ok closes
      cases different
  | broken => cases read
  | null => cases read
  | bool b => cases read
  | num n => cases n <;> cases read
  | str s => cases s <;> cases read

theorem Decoder.mem_member_values (read : Decoder.memberValues form members = .ok values) {value : Value} :
    (name, value) ∈ values ↔ ∃ document, (some name, document) ∈ members ∧ Decoder.value form document = .ok value := by
  induction members generalizing values with
  | nil =>
      cases read
      simp
  | cons head rest ih =>
      obtain ⟨label, document⟩ := head
      cases label with
      | none => cases read
      | some label =>
          obtain ⟨first, here, later⟩ := bind_eq_ok.mp read
          obtain ⟨others, there, result⟩ := bind_eq_ok.mp later
          cases result
          rw [List.mem_cons, ih there]
          constructor
          · rintro (same | ⟨other, member, found⟩)
            · cases same
              exact ⟨document, List.mem_cons_self, here⟩
            · exact ⟨other, List.mem_cons_of_mem _ member, found⟩
          · rintro ⟨other, member, found⟩
            rcases List.mem_cons.mp member with same | behind
            · cases same
              rw [here] at found
              cases found
              exact Or.inl rfl
            · exact Or.inr ⟨other, behind, found⟩

theorem Decoder.value_null {document : Document} (read : Decoder.value form document = .ok .null) :
    document = .null := by
  cases document with
  | null => rfl
  | broken => cases read
  | bool b => cases read
  | num n => cases n <;> cases read
  | str s => cases s <;> cases read
  | arr items ending =>
      obtain ⟨inner, _, rest⟩ := bind_eq_ok.mp read
      obtain ⟨values, _, closes⟩ := bind_eq_ok.mp rest
      have different := Decoder.closed_ok closes
      cases different
  | obj members ending =>
      obtain ⟨inner, _, rest⟩ := bind_eq_ok.mp read
      obtain ⟨values, _, closes⟩ := bind_eq_ok.mp rest
      have different := Decoder.closed_ok closes
      cases different

-- What is optional is read as a value that is not null, or as nothing.
theorem Decoder.option_value {document : Document} {given : Option Value}
    (read : Decoder.option Decoder.value form document = .ok given) :
    ∃ value, Decoder.value form document = .ok value ∧ given = (some value).filter (!·.isNull) := by
  by_cases null : document = .null
  · subst null
    cases read
    exact ⟨.null, rfl, rfl⟩
  · have plain : (Decoder.value form document).map some = .ok given := by
      cases document <;> first | exact absurd rfl null | exact read
    cases here : Decoder.value form document with
    | error problem =>
        rw [here] at plain
        cases plain
    | ok value =>
        rw [here] at plain
        cases plain
        have some : value.isNull = false := by
          cases value with
          | null => exact absurd (Decoder.value_null here) null
          | _ => rfl
        exact ⟨value, rfl, (Option.filter_eq_some_iff.mpr ⟨rfl, by rw [some]; rfl⟩).symm⟩

namespace Record

variable {fields : List Field} {seen slots : Slots}

-- What a reading of members under a name has found: nothing where none is, or the only one.
def Finds (members : List (Option String × Document)) (name : String) : Option Document → Prop
  | none => ∀ document, (some name, document) ∉ members
  | some document => ∀ other, (some name, other) ∈ members ↔ other = document

theorem finds_cons_other {label : Option String} {document : Document} {found : Option Document}
    (different : label ≠ some name) (finds : Finds members name found) :
    Finds ((label, document) :: members) name found := by
  have same : ∀ other, (some name, other) ∈ (label, document) :: members ↔ (some name, other) ∈ members := by
    intro other
    simp [Ne.symm different]
  cases found with
  | none => exact fun other member => finds other ((same other).mp member)
  | some only => exact fun other => (same other).trans (finds other)

-- Whether an object or a list is read, the record is assembled of slots.
theorem assembled_of_members {α : Type} {record : Record α} {ending : Ending} {result : α}
    (read : record.ofMembers form members ending = .ok result) :
    ∃ inner slots, form.enter = .ok inner ∧ record.assemble inner slots = .ok result := by
  obtain ⟨inner, entered, opened⟩ := bind_eq_ok.mp read
  obtain ⟨slots, _, rest⟩ := bind_eq_ok.mp opened
  obtain ⟨_, _, assembled⟩ := bind_eq_ok.mp rest
  exact ⟨inner, slots, entered, assembled⟩

theorem assembled_of_items {α : Type} {record : Record α} {label : String} {items : List Document} {ending : Ending}
    {result : α} (read : record.ofItems label form items ending = .ok result) :
    ∃ inner slots, form.enter = .ok inner ∧ record.assemble inner slots = .ok result := by
  obtain ⟨inner, entered, opened⟩ := bind_eq_ok.mp read
  obtain ⟨slots, _, rest⟩ := bind_eq_ok.mp opened
  obtain ⟨found, assembled, ends⟩ := bind_eq_ok.mp rest
  have same : result = found := by
    by_cases long : record.fields.length < items.length
    · rw [if_pos long] at ends
      cases ends
    · rw [if_neg long] at ends
      exact Decoder.closed_ok ends
  exact ⟨inner, slots, entered, same ▸ assembled⟩

-- A field stands in the object at most once, and then its slot holds what stands there.
theorem slots_of_ok (read : slotsOf fields form seen members = .ok slots)
    (known : (fields.find? fun field => field.name == name).isSome = true) :
    (∀ document, Keyed.lookup name seen = some document →
      Keyed.lookup name slots = some document ∧ Finds members name none) ∧
    (Keyed.lookup name seen = none → Finds members name (Keyed.lookup name slots)) := by
  induction members generalizing seen with
  | nil =>
      cases read
      refine ⟨fun document found => ⟨found, by simp [Finds]⟩, ?_⟩
      intro missing
      rw [missing]
      simp [Finds]
  | cons head rest ih =>
      obtain ⟨label, document⟩ := head
      cases label with
      | none => cases read
      | some label =>
          simp only [slotsOf] at read
          split at read
          · rename_i unknown
            have different : some label ≠ some name := by
              intro same
              rw [Option.some.inj same] at unknown
              rw [unknown] at known
              cases known
            split at read
            · obtain ⟨kept, fresh⟩ := ih read
              refine ⟨fun document found => ?_, fun missing => finds_cons_other different (fresh missing)⟩
              exact ⟨(kept document found).1, finds_cons_other different (kept document found).2⟩
            · cases read
          · rename_i field _
            cases earlier : Keyed.lookup label seen with
            | some other =>
                simp only [earlier, Option.isSome_some, if_true] at read
                cases read
            | none =>
                simp only [earlier, Option.isSome_none] at read
                obtain ⟨_, _, later⟩ := bind_eq_ok.mp read
                obtain ⟨kept, fresh⟩ := ih later
                by_cases same : label = name
                · subst same
                  obtain ⟨here, none⟩ := kept document (by simp [Keyed.lookup])
                  refine ⟨fun other found => ?_, fun _ => ?_⟩
                  · rw [earlier] at found
                    cases found
                  · rw [here]
                    intro other
                    simp [none other]
                · have different : some label ≠ some name := fun equal => same (Option.some.inj equal)
                  simp only [Keyed.lookup, same, if_false] at kept fresh
                  refine ⟨fun other found => ?_, fun missing => finds_cons_other different (fresh missing)⟩
                  exact ⟨(kept other found).1, finds_cons_other different (kept other found).2⟩

end Record

-- Where an object is read as a record and as a value, too, an optional field of the record is the member
-- of the value, unless that is null.
theorem optional_eq_member {inner : Form} {fields : List Field} {slots : Slots} {given : Option Value}
    (slotted : Record.slotsOf fields inner [] members = .ok slots)
    (known : (fields.find? fun field => field.name == name).isSome = true)
    (read : (Record.optional name Decoder.value).assemble inner slots = .ok given)
    (whole : Decoder.memberValues inner members = .ok values) :
    given = ((Value.ofMembers values).member? name).filter (!·.isNull) := by
  have finds := (Record.slots_of_ok slotted known).2 rfl
  have member : (Value.ofMembers values).member? name = (Keyed.ofList values).get? name := rfl
  simp only [Record.optional, Record.field] at read
  rw [member]
  cases found : Keyed.lookup name slots with
  | none =>
      rw [found] at finds read
      cases read
      rw [Keyed.get?_of_list_eq_none]
      · rfl
      · intro value listed
        obtain ⟨document, there, _⟩ := (Decoder.mem_member_values whole).mp listed
        exact finds document there
  | some document =>
      rw [found] at finds read
      obtain ⟨value, here, result⟩ := Decoder.option_value read
      have stored : (Keyed.ofList values).get? name = some value := by
        apply Keyed.get?_of_list_of_unique
        · exact (Decoder.mem_member_values whole).mpr ⟨document, (finds document).mpr rfl, here⟩
        · intro other listed
          obtain ⟨same, there, reads⟩ := (Decoder.mem_member_values whole).mp listed
          rw [(finds same).mp there, here] at reads
          exact (Except.ok.inj reads).symm
      rw [stored, result]

end Bookmarks.Json
