import Mathlib.Data.List.Forall2
import Bookmarks.Proofs.Json.Records

/-!
An object that is written as a record, its members in any order and with others among them. A record reads the
members that it has fields for (`Record.Lawful`), so the order of the members and what else there is do not matter
(`Value.Recast`).
-/
set_option autoImplicit false

namespace Bookmarks.Json

mutual

theorem Value.document_whole (value : Value) : value.document.isWhole = true := by
  match value with
  | .null => rfl
  | .bool _ => rfl
  | .num _ => rfl
  | .str _ => rfl
  | .arr items => rw [Value.document, Document.isWhole, Value.documents_whole items]; rfl
  | .obj members => rw [Value.document, Document.isWhole, Value.member_documents_whole members]; rfl

theorem Value.documents_whole (items : List Value) : Document.areWhole (Value.documents items) = true := by
  match items with
  | [] => rfl
  | item :: rest => rw [Value.documents, Document.areWhole, Value.document_whole item, Value.documents_whole rest]; rfl

theorem Value.member_documents_whole (members : List (String × Value)) :
    Document.membersWhole (Value.memberDocuments members) = true := by
  match members with
  | [] => rfl
  | member :: rest =>
      rw [Value.memberDocuments, Document.membersWhole, Value.document_whole member.2,
        Value.member_documents_whole rest]
      rfl

end

section Decoders

variable {α : Type} {form inner : Form}

theorem Decoder.integer_ok {n : Int} (below : n < 0x8000000000000000) :
    Decoder.integer form (Value.int n).document = .ok n := by
  simp [Decoder.integer, Value.int, Value.document, below]

theorem Decoder.integer_below {n : Int} {document : Document} (read : Decoder.integer form document = .ok n) :
    n < 0x8000000000000000 := by
  unfold Decoder.integer at read
  split at read
  · split at read
    · cases read
      assumption
    · cases read
  · exact absurd read Decoder.mismatch_ne_ok

theorem Decoder.items_ok {encode : α → Value} {decode : Decoder α} {list : List α}
    (each : ∀ a ∈ list, decode form (encode a).document = .ok a) :
    Decoder.items decode form (Value.documents (list.map encode)) = .ok list := by
  induction list with
  | nil => rfl
  | cons a rest ih =>
      obtain ⟨here, others⟩ := List.forall_mem_cons.mp each
      rw [List.map_cons, Value.documents, Decoder.items, bind_of_ok here, bind_of_ok (ih others)]
      rfl

theorem Decoder.list_ok {encode : α → Value} {decode : Decoder α} {list : List α} (entered : form.enter = .ok inner)
    (each : ∀ a ∈ list, decode inner (encode a).document = .ok a) :
    Decoder.list decode form (Value.arr (list.map encode)).document = .ok list := by
  rw [Value.document, Decoder.list, bind_of_ok entered, bind_of_ok (Decoder.items_ok each)]
  rfl

theorem Decoder.strings_ok (texts : List String) (entered : form.enter = .ok inner) :
    Decoder.list Decoder.text form (Value.strings texts).document = .ok texts :=
  Decoder.list_ok entered fun _ _ => rfl

theorem Decoder.entries_ok {encode : α → Value} {decode : Decoder α} {entries : List (String × α)}
    (each : ∀ entry ∈ entries, decode form (encode entry.2).document = .ok entry.2) :
    Decoder.entries decode form (Value.memberDocuments (entries.map fun entry => (entry.1, encode entry.2))) =
      .ok entries := by
  induction entries with
  | nil => rfl
  | cons entry rest ih =>
      obtain ⟨here, others⟩ := List.forall_mem_cons.mp each
      rw [List.map_cons, Value.memberDocuments, Decoder.entries, bind_of_ok here, bind_of_ok (ih others)]
      rfl

theorem Decoder.keyed_ok {encode : α → Value} {decode : Decoder α} (table : Keyed α) (entered : form.enter = .ok inner)
    (each : ∀ entry ∈ table.entries, decode inner (encode entry.2).document = .ok entry.2) :
    Decoder.keyed decode form (Value.ofKeyed encode table).document = .ok table := by
  rw [Value.ofKeyed, Value.document, Decoder.keyed, bind_of_ok entered, bind_of_ok (Decoder.entries_ok each),
    Keyed.of_list_entries]
  rfl

end Decoders

-- The members of an object as the slots of a record that reads it.
def Value.slots (members : List (String × Value)) : Slots := members.map fun member => (member.1, member.2.document)

theorem member_documents_eq (members : List (String × Value)) :
    Value.memberDocuments members = (Value.slots members).map fun slot => (some slot.1, slot.2) := by
  induction members with
  | nil => rfl
  | cons member rest ih => rw [Value.memberDocuments, ih, Value.slots, Value.slots, List.map_cons, List.map_cons]

theorem lookup_slots (name : String) (members : List (String × Value)) :
    Keyed.lookup name (Value.slots members) = (Keyed.lookup name members).map Value.document :=
  Keyed.lookup_map (fun _ => Value.document) name members

namespace Record

variable {α β : Type} {fields : List Field} {form inner : Form} {slots seen : Slots} {name : String}
  {members : List (String × Value)}

-- The slot holds what its field takes, or it is not one of a field and can be read.
def Taken (fields : List Field) (form : Form) (slot : String × Document) : Prop :=
  match fields.find? fun field => field.name == slot.1 with
  | some field => field.check form slot.2 = .ok ()
  | none => slot.2.isWhole = true

theorem slots_of_distinct (taken : ∀ slot ∈ slots, Taken fields form slot)
    (once : ((slots.reverse ++ seen).map (·.1)).Nodup) :
    slotsOf fields form seen (slots.map fun slot => (some slot.1, slot.2)) =
      .ok ((slots.filter fun slot => (fields.find? fun field => field.name == slot.1).isSome).reverse ++ seen) := by
  induction slots generalizing seen with
  | nil => rfl
  | cons slot rest ih =>
      obtain ⟨here, others⟩ := List.forall_mem_cons.mp taken
      rw [List.reverse_cons, List.append_assoc, List.singleton_append] at once
      rw [List.map_cons, slotsOf]
      cases found : fields.find? fun field => field.name == slot.1 with
      | none =>
          have whole : slot.2.isWhole = true := by simpa only [Taken, found] using here
          have later : ((rest.reverse ++ seen).map (·.1)).Nodup := by
            refine once.sublist (List.Sublist.map _ ?_)
            exact List.Sublist.append_left (List.sublist_cons_self slot seen) rest.reverse
          rw [List.filter_cons_of_neg (by simp [found])]
          simpa only [whole, if_true] using ih others later
      | some field =>
          have checks : field.check form slot.2 = .ok () := by simpa only [Taken, found] using here
          have fresh : Keyed.lookup slot.1 seen = none := by
            refine Keyed.lookup_eq_none_iff.mpr fun value member => ?_
            rw [List.map_append, List.map_cons] at once
            have behind := (List.nodup_append.mp once).2.1
            exact (List.nodup_cons.mp behind).1 (List.mem_map.mpr ⟨_, member, rfl⟩)
          rw [List.filter_cons_of_pos (by simp [found]), List.reverse_cons, List.append_assoc, List.singleton_append]
          simp only [fresh, Option.isSome_none]
          exact (bind_of_ok checks _).trans (ih others once)

theorem finds_unique {members : List (Option String × Document)} {one other : Option Document}
    (first : Finds members name one) (second : Finds members name other) : one = other := by
  cases one with
  | none =>
      cases other with
      | none => rfl
      | some document => exact absurd ((second document).mpr rfl) (first document)
  | some document =>
      have there := (first document).mpr rfl
      cases other with
      | none => exact absurd there (second document)
      | some same => rw [(second document).mp there]

-- Of distinct names each is found where it stands.
theorem lookup_of_slots (once : (members.map (·.1)).Nodup)
    (read : slotsOf fields form [] (Value.memberDocuments members) = .ok slots)
    (known : (fields.find? fun field => field.name == name).isSome = true) :
    Keyed.lookup name slots = Keyed.lookup name (Value.slots members) := by
  have names : ((Value.slots members).map (·.1)).Nodup := by
    rwa [Value.slots, List.map_map]
  have listed : ∀ document, (some name, document) ∈ Value.memberDocuments members ↔
      Keyed.lookup name (Value.slots members) = some document := by
    intro document
    rw [Keyed.lookup_iff_of_nodup names, member_documents_eq]
    simp
  refine finds_unique ((slots_of_ok read known).2 rfl) ?_
  cases found : Keyed.lookup name (Value.slots members) with
  | none =>
      intro document member
      rw [listed, found] at member
      cases member
  | some document =>
      intro other
      rw [listed, found, Option.some.injEq, eq_comm]

variable {decode : Decoder α} {document : Document} {value : α}

theorem assemble_map {first : Record α} (g : α → β) (read : first.assemble form slots = .ok value) :
    (g <$> first).assemble form slots = .ok (g value) := congrArg (Except.map g) read

theorem assemble_seq {first : Record (α → β)} {second : Record α} {g : α → β}
    (read : first.assemble form slots = .ok g) (readNext : second.assemble form slots = .ok value) :
    (first <*> second).assemble form slots = .ok (g value) :=
  (bind_of_ok read _).trans (bind_of_ok readNext _)

theorem assemble_field {mayEnd : Bool} {missing : Except Problem α} (found : Keyed.lookup name slots = some document)
    (decoded : decode form document = .ok value) :
    (field name decode mayEnd missing).assemble form slots = .ok value := by
  simp only [field, found, decoded]

theorem assemble_absent {mayEnd : Bool} {missing : Except Problem α} (absent : Keyed.lookup name slots = none) :
    (field name decode mayEnd missing).assemble form slots = missing := by
  simp only [field, absent]

-- What is optional is read as it was written, also where it was not.
theorem assemble_given {encode : α → Value} {given : Option α}
    (found : Keyed.lookup name slots = given.map fun a => (encode a).document)
    (reads : ∀ a, given = some a → Decoder.option decode form (encode a).document = .ok (some a)) :
    (Record.optional name decode).assemble form slots = .ok given := by
  cases given with
  | none => exact assemble_absent found
  | some a => exact assemble_field found (reads a rfl)

theorem assemble_text {given : Option String}
    (found : Keyed.lookup name slots = given.map fun s => (Value.str s).document) :
    (Record.optional name Decoder.text).assemble form slots = .ok given :=
  assemble_given found fun _ _ => rfl

theorem assemble_map_ok_iff {record : Record α} {g : α → β} {result : β} :
    (g <$> record).assemble form slots = .ok result ↔ ∃ value, record.assemble form slots = .ok value ∧ g value = result := by
  show (record.assemble form slots).map g = .ok result ↔ _
  cases record.assemble form slots with
  | ok value => simp [Except.map]
  | error problem => simp [Except.map]

theorem assemble_seq_ok_iff {first : Record (α → β)} {second : Record α} {result : β} :
    (first <*> second).assemble form slots = .ok result ↔
      ∃ g, first.assemble form slots = .ok g ∧ ∃ value, second.assemble form slots = .ok value ∧ g value = result := by
  show (first.assemble form slots >>= fun g => second.assemble form slots >>= fun value => pure (g value)) = .ok result ↔ _
  simp only [bind_eq_ok, pure, Except.pure, Except.ok.injEq]

end Record

section Likeness

variable {α β : Type} {alike : Document → Document → Prop}

-- What is alike is read alike, or not at all.
def Decoder.Respects (alike : Document → Document → Prop) (decode : Decoder α) : Prop :=
  ∀ form one other result, alike one other → (decode form one = .ok result ↔ decode form other = .ok result)

theorem rel_refl (reflexive : ∀ document, alike document document) (found : Option Document) :
    Option.Rel alike found found := by
  cases found with
  | none => exact .none
  | some document => exact .some (reflexive document)

theorem Decoder.respects_eq (decode : Decoder α) : decode.Respects Eq := by
  rintro form one _ result rfl
  exact Iff.rfl

-- A record that depends on the slots of its fields alone and takes nothing that a field refuses.
structure Record.Lawful (alike : Document → Document → Prop) (record : Record α) : Prop where
  checks : ∀ form slots result, record.assemble form slots = .ok result → ∀ field ∈ record.fields, ∀ document,
    Keyed.lookup field.name slots = some document → field.check form document = .ok ()
  respects : ∀ form slots others result,
    (∀ field ∈ record.fields, Option.Rel alike (Keyed.lookup field.name slots) (Keyed.lookup field.name others)) →
    (record.assemble form slots = .ok result ↔ record.assemble form others = .ok result)

namespace Record.Lawful

theorem field {decode : Decoder α} (respects : decode.Respects alike) (name : String) (mayEnd : Bool)
    (missing : Except Problem α) : Lawful alike (Record.field name decode mayEnd missing) := by
  refine ⟨?checks, ?respects⟩
  case checks =>
    intro form slots result read field member document found
    cases List.mem_singleton.mp member
    have decoded : decode form document = .ok result := by simpa only [Record.field, found] using read
    simp only [checked, decoded]
    rfl
  case respects =>
    intro form slots others result same
    have here : Option.Rel alike (Keyed.lookup name slots) (Keyed.lookup name others) := same _ List.mem_cons_self
    simp only [Record.field]
    generalize Keyed.lookup name slots = one, Keyed.lookup name others = other at here
    cases here with
    | none => exact Iff.rfl
    | some like => exact respects form _ _ result like

-- Equal documents are read alike by every field.
theorem plain (name : String) (decode : Decoder α) (mayEnd : Bool) (missing : Except Problem α) :
    Lawful Eq (Record.field name decode mayEnd missing) :=
  .field decode.respects_eq name mayEnd missing

theorem map {record : Record α} (lawful : record.Lawful alike) (g : α → β) : Lawful alike (g <$> record) := by
  refine ⟨?checks, ?respects⟩
  case checks =>
    intro form slots result read
    obtain ⟨value, plain, _⟩ := assemble_map_ok_iff.mp read
    exact lawful.checks form slots value plain
  case respects =>
    intro form slots others result same
    simp only [assemble_map_ok_iff]
    exact exists_congr fun value => and_congr_left fun _ => lawful.respects form slots others value same

theorem seq {first : Record (α → β)} {second : Record α} (lawful : first.Lawful alike) (next : second.Lawful alike) :
    Lawful alike (first <*> second) := by
  refine ⟨?checks, ?respects⟩
  case checks =>
    intro form slots result read field member
    obtain ⟨g, plain, value, later, _⟩ := assemble_seq_ok_iff.mp read
    rcases List.mem_append.mp member with here | there
    · exact lawful.checks form slots g plain field here
    · exact next.checks form slots value later field there
  case respects =>
    intro form slots others result same
    simp only [assemble_seq_ok_iff]
    refine exists_congr fun g => and_congr ?_ (exists_congr fun value => and_congr_left fun _ => ?_)
    · exact lawful.respects form slots others g fun field member => same field (List.mem_append_left _ member)
    · exact next.respects form slots others value fun field member => same field (List.mem_append_right _ member)

end Record.Lawful

end Likeness

namespace Record

variable {α : Type} {alike : Document → Document → Prop} {form inner : Form} {record : Record α} {result : α}
  {members : List (String × Value)}

-- What the members of an object are read as, if each name stands there once.
theorem of_members_ok_iff (lawful : record.Lawful alike) (reflexive : ∀ document, alike document document)
    (once : (members.map (·.1)).Nodup) (entered : form.enter = .ok inner) :
    record.ofMembers form (Value.memberDocuments members) .closed = .ok result ↔
      record.assemble inner (Value.slots members) = .ok result := by
  have opened : record.ofMembers form (Value.memberDocuments members) .closed =
      (slotsOf record.fields inner [] (Value.memberDocuments members) >>= record.assemble inner) := by
    rw [ofMembers, bind_of_ok entered]
    rfl
  rw [opened]
  have agrees : ∀ slots, slotsOf record.fields inner [] (Value.memberDocuments members) = .ok slots →
      (record.assemble inner slots = .ok result ↔ record.assemble inner (Value.slots members) = .ok result) := by
    intro slots slotted
    refine lawful.respects inner slots (Value.slots members) result fun field member => ?_
    rw [lookup_of_slots once slotted (List.find?_isSome.mpr ⟨field, member, beq_self_eq_true _⟩)]
    exact rel_refl reflexive _
  constructor
  · intro read
    obtain ⟨slots, slotted, assembled⟩ := bind_eq_ok.mp read
    exact (agrees slots slotted).mp assembled
  · intro assembled
    have names : ((Value.slots members).map (·.1)).Nodup := by
      rwa [Value.slots, List.map_map]
    have taken : ∀ slot ∈ Value.slots members, Taken record.fields inner slot := by
      intro slot member
      unfold Taken
      split
      · rename_i field found
        have named : field.name = slot.1 := by simpa using List.find?_some found
        have there := (Keyed.lookup_iff_of_nodup names).mpr member
        exact lawful.checks inner _ result assembled field (List.mem_of_find?_eq_some found) slot.2 (named ▸ there)
      · obtain ⟨origin, _, rfl⟩ := List.mem_map.mp member
        exact Value.document_whole origin.2
    have distinct : (((Value.slots members).reverse ++ [] : Slots).map (·.1)).Nodup := by
      rw [List.append_nil, List.map_reverse]
      exact List.pairwise_reverse.mpr (names.imp Ne.symm)
    have slotted := slots_of_distinct taken distinct
    rw [← member_documents_eq] at slotted
    rw [bind_of_ok slotted]
    exact (agrees _ slotted).mpr assembled

theorem decode_written (lawful : record.Lawful Eq) (name : String) (once : (members.map (·.1)).Nodup)
    (entered : form.enter = .ok inner) (assembled : record.assemble inner (Value.slots members) = .ok result) :
    record.decoder name form (Value.obj members).document = .ok result :=
  (of_members_ok_iff lawful (fun _ => rfl) once entered).mpr assembled

end Record

-- The members of an object in another order, each as it was or in a like form, and members of other names with them.
def Value.Recast (known : List String) (alike : Value → Value → Prop) (members others : List (String × Value)) : Prop :=
  (others.map (·.1)).Nodup ∧ ∃ same extras, List.Forall₂ (fun one other => one.1 = other.1 ∧ alike one.2 other.2) members same ∧
    others.Perm (same ++ extras) ∧ ∀ extra ∈ extras, extra.1 ∉ known

section Recast

variable {known : List String} {alike : Value → Value → Prop} {members others same : List (String × Value)}
  {name : String}

theorem names_of_like (like : List.Forall₂ (fun one other => one.1 = other.1 ∧ alike one.2 other.2) members same) :
    members.map (·.1) = same.map (·.1) := by
  induction like with
  | nil => rfl
  | cons here _ ih => rw [List.map_cons, List.map_cons, here.1, ih]

theorem lookup_of_like (like : List.Forall₂ (fun one other => one.1 = other.1 ∧ alike one.2 other.2) members same) :
    Option.Rel alike (Keyed.lookup name members) (Keyed.lookup name same) := by
  induction like with
  | nil => exact .none
  | @cons one other _ _ here _ ih =>
      by_cases equal : one.1 = name
      · simpa only [Keyed.lookup, ← here.1, equal, if_true] using Option.Rel.some here.2
      · simpa only [Keyed.lookup, ← here.1, equal, if_false] using ih

theorem Value.Recast.once (recast : Recast known alike members others) : (members.map (·.1)).Nodup := by
  obtain ⟨once, same, extras, like, perm, _⟩ := recast
  have all := (perm.map (·.1)).nodup_iff.mp once
  rw [List.map_append] at all
  rw [names_of_like like]
  exact (List.nodup_append.mp all).1

theorem Value.Recast.lookup (recast : Recast known alike members others) (member : name ∈ known) :
    Option.Rel alike (Keyed.lookup name members) (Keyed.lookup name others) := by
  obtain ⟨once, same, extras, like, perm, other⟩ := recast
  have absent : Keyed.lookup name extras = none :=
    Keyed.lookup_eq_none_iff.mpr fun value there => other (name, value) there member
  rw [Keyed.lookup_perm once perm, Keyed.lookup_append, absent, Option.or_none]
  exact lookup_of_like like

theorem Value.Recast.slots {likeness : Document → Document → Prop} (recast : Recast known alike members others)
    (carry : ∀ one other, alike one other → likeness one.document other.document) (member : name ∈ known) :
    Option.Rel likeness (Keyed.lookup name (Value.slots members)) (Keyed.lookup name (Value.slots others)) := by
  have found := recast.lookup member
  rw [lookup_slots, lookup_slots]
  generalize Keyed.lookup name members = one, Keyed.lookup name others = other at found
  cases found with
  | none => exact .none
  | some like => exact .some (carry _ _ like)

-- In another order, and with other members among them, the members of a record are read as the same.
theorem Record.decode_recast {α : Type} {record : Record α} {result : α} {label : String} (lawful : record.Lawful Eq)
    (recast : Value.Recast (record.fields.map (·.name)) Eq members others) (form : Form) :
    record.decoder label form (Value.obj members).document = .ok result ↔
      record.decoder label form (Value.obj others).document = .ok result := by
  show record.ofMembers form _ _ = _ ↔ record.ofMembers form _ _ = _
  cases entered : form.enter with
  | error problem => rw [ofMembers, ofMembers, entered, bind_of_error rfl, bind_of_error rfl]
  | ok inner =>
      rw [of_members_ok_iff lawful (fun _ => rfl) recast.once entered,
        of_members_ok_iff lawful (fun _ => rfl) recast.1 entered]
      refine lawful.respects inner _ _ result fun field member => ?_
      exact recast.slots (fun _ _ like => congrArg Value.document like) (List.mem_map.mpr ⟨field, member, rfl⟩)

end Recast

end Bookmarks.Json
