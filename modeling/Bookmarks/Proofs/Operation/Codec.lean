import Bookmarks.Operation.Codec
import Bookmarks.Proofs.Json.Fields
import Bookmarks.Proofs.Json.RoundTrip

/-!
Operations that are written and read. What is written is read as it was, and whatever is read can be written. Which
operation an object is depends on the members that the operation has, not on their order and not on others.
-/
set_option autoImplicit false

namespace Bookmarks

open Bookmarks.Json (Value Decoder Record Document Form Slots Problem)

variable {form inner : Form} {slots : Slots}

namespace Tab

-- The same tab, or an object with the same members of a tab.
def Alike (one other : Value) : Prop :=
  one = other ∨ ∃ members others, one = .obj members ∧ other = .obj others ∧
    Value.Recast (record.fields.map (·.name)) Eq members others

theorem lawful : record.Lawful Eq := ((Record.Lawful.plain _ _ _ _).map _).seq (.plain _ _ _ _)

theorem decode_alike {one other : Value} (alike : Alike one other) (form : Form) (tab : Tab) :
    decoder form one.document = .ok tab ↔ decoder form other.document = .ok tab := by
  rcases alike with rfl | ⟨members, others, rfl, rfl, recast⟩
  · exact Iff.rfl
  · exact Record.decode_recast lawful recast form

theorem decode_value (tab : Tab) (entered : form.enter = .ok inner) : decoder form tab.value.document = .ok tab := by
  refine Record.decode_written lawful "struct Tab" ?once entered ?read
  case once =>
    show ["title", "url"].Nodup
    decide
  case read => exact Record.assemble_seq (Record.assemble_map _ (Record.assemble_field rfl rfl)) (Record.assemble_field rfl rfl)

end Tab

namespace Operation

-- The same value, or a list of tabs that are alike.
def TabsAlike (one other : Value) : Prop :=
  one = other ∨ ∃ tabs others, one = .arr tabs ∧ other = .arr others ∧ List.Forall₂ Tab.Alike tabs others

-- The names that an object may have for its operation, the tag among them.
def knownNames (members : List (String × Value)) : List String :=
  match Keyed.lookup "type" members with
  | some (.str name) => "type" :: ((Keyed.lookup name shapes).map fun shape => shape.record.fields.map (·.name)).getD []
  | _ => ["type"]

-- The index of an operation that has one.
def index? : Operation → Option Int
  | .addFolder _ _ index => index
  | .addBookmark _ _ _ index => index
  | .moveNode _ _ newIndex => newIndex
  | .saveSession _ _ _ index => index
  | _ => none

-- As documents.
def Likened (one other : Document) : Prop :=
  one = other ∨ ∃ tabs others, one = (Value.arr tabs).document ∧ other = (Value.arr others).document ∧
    List.Forall₂ Tab.Alike tabs others

theorem likened_of_alike {one other : Value} (alike : TabsAlike one other) : Likened one.document other.document := by
  rcases alike with rfl | ⟨tabs, others, rfl, rfl, same⟩
  · exact Or.inl rfl
  · exact Or.inr ⟨tabs, others, rfl, rfl, same⟩

-- What takes no list cannot tell one list from another.
theorem respects_of_refuses {α : Type} {decode : Decoder α}
    (refuses : ∀ form items ending result, decode form (.arr items ending) ≠ .ok result) : decode.Respects Likened := by
  rintro form one other result (rfl | ⟨tabs, others, rfl, rfl, _⟩)
  · exact Iff.rfl
  · exact iff_of_false (refuses form _ _ result) (refuses form _ _ result)

theorem text_respects : Decoder.Respects Likened Decoder.text := respects_of_refuses fun _ _ _ _ read => nomatch read

theorem flag_respects : Decoder.Respects Likened Decoder.flag := respects_of_refuses fun _ _ _ _ read => nomatch read

theorem option_text_respects : Decoder.Respects Likened (Decoder.option Decoder.text) :=
  respects_of_refuses fun _ _ _ _ read => nomatch read

theorem option_integer_respects : Decoder.Respects Likened (Decoder.option Decoder.integer) :=
  respects_of_refuses fun _ _ _ _ read => nomatch read

theorem items_alike {tabs others : List Value} (same : List.Forall₂ Tab.Alike tabs others) (result : List Tab) :
    Decoder.items Tab.decoder form (Value.documents tabs) = .ok result ↔
      Decoder.items Tab.decoder form (Value.documents others) = .ok result := by
  induction same generalizing result with
  | nil => exact Iff.rfl
  | cons here _ ih =>
      simp only [Value.documents, Decoder.items, bind_eq_ok]
      refine exists_congr fun tab => and_congr (Tab.decode_alike here form tab) ?_
      exact exists_congr fun rest => and_congr_left fun _ => ih rest

theorem tabs_respects : Decoder.Respects Likened (Decoder.list Tab.decoder) := by
  rintro form one other result (rfl | ⟨tabs, others, rfl, rfl, same⟩)
  · exact Iff.rfl
  · simp only [Value.document, Decoder.list, bind_eq_ok]
    refine exists_congr fun inner => and_congr_right fun _ => ?_
    exact exists_congr fun read => and_congr_left fun _ => items_alike same read

theorem shapes_lawful : ∀ entry ∈ shapes, entry.2.record.Lawful Likened := by
  have parent : Record.Lawful Likened parentField := .field text_respects _ _ _
  have node : Record.Lawful Likened nodeField := .field text_respects _ _ _
  have title : Record.Lawful Likened titleField := .field text_respects _ _ _
  have index (name : String) : Record.Lawful Likened (indexField name) := .field option_integer_respects _ _ _
  simp only [shapes, List.map_cons, List.map_nil, List.forall_mem_cons]
  refine ⟨?addFolder, ?addBookmark, ?renameNode, ?moveNode, ?deleteNode, ?updateBookmark, ?saveSession, nofun⟩
  case addFolder => exact ((parent.map _).seq title).seq (index _)
  case addBookmark => exact (((parent.map _).seq title).seq (.field text_respects _ _ _)).seq (index _)
  case renameNode => exact (node.map _).seq title
  case moveNode => exact ((node.map _).seq (.field text_respects _ _ _)).seq (index _)
  case deleteNode => exact (node.map _).seq (.field flag_respects _ _ _)
  case updateBookmark =>
    exact ((node.map _).seq (.field option_text_respects _ _ _)).seq (.field option_text_respects _ _ _)
  case saveSession => exact (((parent.map _).seq title).seq (.field tabs_respects _ _ _)).seq (index _)

-- No field is called like the tag.
theorem shapes_untagged : ∀ entry ∈ shapes, "type" ∉ entry.2.record.fields.map (·.name) := by
  decide

section Objects

variable {members others : List (String × Value)} {operation : Operation} {document : Document}

theorem find_tag (members : List (String × Value)) :
    (Value.memberDocuments members).find? isTag =
      (Keyed.lookup "type" members).map fun value => (some "type", value.document) := by
  induction members with
  | nil => rfl
  | cons member rest ih =>
      by_cases tag : member.1 = "type"
      · rw [Value.memberDocuments, List.find?_cons_of_pos (by simp [isTag, tag]), tag]
        simp [Keyed.lookup, tag]
      · rw [Value.memberDocuments, List.find?_cons_of_neg (by simp [isTag, tag]), ih]
        simp [Keyed.lookup, tag]

theorem untagged (members : List (String × Value)) :
    (Value.memberDocuments members).filter (!isTag ·) =
      Value.memberDocuments (members.filter fun member => member.1 != "type") := by
  induction members with
  | nil => rfl
  | cons member rest ih =>
      by_cases tag : member.1 = "type"
      · rw [Value.memberDocuments, List.filter_cons_of_neg (by simp [isTag, tag]),
          List.filter_cons_of_neg (by simp [tag]), ih]
      · rw [Value.memberDocuments, List.filter_cons_of_pos (by simp [isTag, tag]),
          List.filter_cons_of_pos (by simp [tag]), ih, Value.memberDocuments]

theorem tag_ok_iff {tag : Document} {shape : Shape} :
    tagDecoder form tag = .ok shape ↔ ∃ name, tag = .str (some name) ∧ Keyed.lookup name shapes = some shape := by
  constructor
  · intro told
    unfold tagDecoder at told
    split at told
    · rename_i name
      cases known : Keyed.lookup name shapes with
      | none => simp [Decoder.variant, known] at told
      | some other =>
          have same : other = shape := by simpa [Decoder.variant, known] using told
          exact ⟨name, rfl, known.trans (congrArg some same)⟩
    · exact absurd told Decoder.mismatch_ne_ok
  · rintro ⟨name, rfl, known⟩
    simp [tagDecoder, Decoder.variant, known]

theorem document_eq_str_iff {value : Value} {name : String} :
    value.document = .str (some name) ↔ value = .str name := by
  cases value <;> simp [Value.document]

-- The tag is not a field, so the record reads the same with it.
theorem assemble_untagged {entry : String × Shape} (listed : entry ∈ shapes) :
    entry.2.record.assemble .content (Value.slots (members.filter fun member => member.1 != "type")) = .ok operation ↔
      entry.2.record.assemble .content (Value.slots members) = .ok operation := by
  refine (shapes_lawful entry listed).respects .content _ _ operation fun field member => ?_
  have other : ¬ "type" = field.name :=
    fun same => shapes_untagged entry listed (same ▸ List.mem_map.mpr ⟨field, member, rfl⟩)
  rw [Json.lookup_slots, Json.lookup_slots, Keyed.lookup_filter, if_neg other]
  exact Json.rel_refl (fun _ => Or.inl rfl) _

-- The tag tells the record, and the record reads the members.
theorem decoder_object_iff (once : (members.map (·.1)).Nodup) :
    decoder form (Value.obj members).document = .ok operation ↔
      ∃ name shape, Keyed.lookup "type" members = some (.str name) ∧ Keyed.lookup name shapes = some shape ∧
        shape.record.assemble .content (Value.slots members) = .ok operation := by
  have rest : ((members.filter fun member => member.1 != "type").map (·.1)).Nodup :=
    once.sublist (List.filter_sublist.map _)
  have read {name : String} {shape : Shape} (known : Keyed.lookup name shapes = some shape) :
      shape.record.ofMembers .content ((Value.memberDocuments members).filter (!isTag ·)) .closed = .ok operation ↔
        shape.record.assemble .content (Value.slots members) = .ok operation := by
    have listed : (name, shape) ∈ shapes := Keyed.mem_of_lookup known
    rw [untagged, Record.of_members_ok_iff (shapes_lawful _ listed) (fun _ => Or.inl rfl) rest rfl]
    exact assemble_untagged listed
  rw [Value.document, decoder, find_tag]
  cases tagged : Keyed.lookup "type" members with
  | none =>
      constructor
      · intro impossible
        cases impossible
      · rintro ⟨_, _, there, _⟩
        cases there
  | some tag =>
      refine bind_eq_ok.trans ?_
      constructor
      · rintro ⟨shape, told, made⟩
        obtain ⟨name, text, known⟩ := tag_ok_iff.mp told
        exact ⟨name, shape, congrArg some (document_eq_str_iff.mp text), known, (read known).mp made⟩
      · rintro ⟨name, shape, there, known, made⟩
        cases there
        exact ⟨shape, tag_ok_iff.mpr ⟨name, rfl, known⟩, (read known).mpr made⟩

theorem decode_recast (recast : Value.Recast (knownNames members) TabsAlike members others) (form : Form) :
    decoder form (Value.obj members).document = .ok operation ↔
      decoder form (Value.obj others).document = .ok operation := by
  rw [decoder_object_iff recast.once, decoder_object_iff recast.1]
  have tagKnown : "type" ∈ knownNames members := by
    unfold knownNames
    split <;> exact List.mem_cons_self
  have tag (name : String) : Keyed.lookup "type" members = some (.str name) ↔ Keyed.lookup "type" others = some (.str name) := by
    have found := recast.lookup tagKnown
    generalize Keyed.lookup "type" members = one, Keyed.lookup "type" others = other at found
    cases found with
    | none => exact Iff.rfl
    | some like =>
        rcases like with rfl | ⟨tabs, others, rfl, rfl, _⟩
        · exact Iff.rfl
        · exact iff_of_false nofun nofun
  refine exists_congr fun name => exists_congr fun shape => ?_
  rw [← tag name]
  refine and_congr_right fun tagged => and_congr_right fun known => ?_
  have listed : (name, shape) ∈ shapes := Keyed.mem_of_lookup known
  refine (shapes_lawful _ listed).respects .content _ _ operation fun field member => ?_
  refine recast.slots (fun _ _ => likened_of_alike) ?_
  rw [knownNames, tagged]
  simp only [known]
  exact List.mem_cons_of_mem _ (List.mem_map.mpr ⟨field, member, rfl⟩)

end Objects

section Written

variable {name : String} {index : Option Int}

theorem assemble_index (found : Keyed.lookup name slots = index.map fun n => (Value.int n).document)
    (below : ∀ n, index = some n → n < 0x8000000000000000) : (indexField name).assemble form slots = .ok index :=
  Record.assemble_given found fun n given => congrArg (Except.map some) (Decoder.integer_ok (below n given))

theorem index_below {n : Int} (read : (indexField name).assemble form slots = .ok (some n)) :
    n < 0x8000000000000000 := by
  simp only [indexField, Record.optional, Record.field] at read
  split at read
  · exact Decoder.integer_below (Decoder.some_of_option read)
  · cases read

theorem decode_tabs (tabs : List Tab) :
    Decoder.list Tab.decoder .content (Value.arr (tabs.map Tab.value)).document = .ok tabs :=
  Decoder.list_ok rfl fun tab _ => tab.decode_value rfl

theorem names_distinct (operation : Operation) :
    ((("type", Value.str operation.name) :: operation.members).map (·.1)).Nodup := by
  cases operation with
  | addFolder parentId title index => cases index <;> simp [members, Value.optional]
  | addBookmark parentId title url index => cases index <;> simp [members, Value.optional]
  | renameNode nodeId title => simp [members]
  | moveNode nodeId newParentId newIndex => cases newIndex <;> simp [members, Value.optional]
  | deleteNode nodeId recursive => simp [members]
  | updateBookmark nodeId title url => cases title <;> cases url <;> simp [members, Value.optional]
  | saveSession parentId title tabs index => cases index <;> simp [members, Value.optional]

open Json.Record in
theorem decode_value (form : Form) {operation : Operation}
    (below : ∀ n, operation.index? = some n → n < 0x8000000000000000) :
    decoder form operation.value.document = .ok operation := by
  rw [value, decoder_object_iff operation.names_distinct]
  refine ⟨operation.name, ?_⟩
  cases operation with
  | addFolder parentId title index =>
      refine ⟨_, rfl, rfl, assemble_seq (assemble_seq (assemble_map _ (assemble_field rfl rfl)) (assemble_field rfl rfl))
        (assemble_index ?_ below)⟩
      cases index <;> rfl
  | addBookmark parentId title url index =>
      refine ⟨_, rfl, rfl, assemble_seq (assemble_seq (assemble_seq (assemble_map _ (assemble_field rfl rfl))
        (assemble_field rfl rfl)) (assemble_field rfl rfl)) (assemble_index ?_ below)⟩
      cases index <;> rfl
  | renameNode nodeId title =>
      exact ⟨_, rfl, rfl, assemble_seq (assemble_map _ (assemble_field rfl rfl)) (assemble_field rfl rfl)⟩
  | moveNode nodeId newParentId newIndex =>
      refine ⟨_, rfl, rfl, assemble_seq (assemble_seq (assemble_map _ (assemble_field rfl rfl)) (assemble_field rfl rfl))
        (assemble_index ?_ below)⟩
      cases newIndex <;> rfl
  | deleteNode nodeId recursive =>
      exact ⟨_, rfl, rfl, assemble_seq (assemble_map _ (assemble_field rfl rfl)) (assemble_field rfl rfl)⟩
  | updateBookmark nodeId title url =>
      refine ⟨_, rfl, rfl, assemble_seq (assemble_seq (assemble_map _ (assemble_field rfl rfl)) (assemble_text ?title))
        (assemble_text ?url)⟩
      case title => cases title <;> cases url <;> rfl
      case url => cases title <;> cases url <;> rfl
  | saveSession parentId title tabs index =>
      refine ⟨_, rfl, rfl, assemble_seq (assemble_seq (assemble_seq (assemble_map _ (assemble_field rfl rfl))
        (assemble_field rfl rfl)) (assemble_field rfl (decode_tabs tabs))) (assemble_index ?_ below)⟩
      cases index <;> rfl

end Written

section Read

variable {document : Document} {operation : Operation}

-- However a document is laid out, what is read comes from the record of an operation.
theorem assembled_of_read (read : decoder form document = .ok operation) :
    ∃ entry ∈ shapes, ∃ slots, entry.2.record.assemble .content slots = .ok operation := by
  unfold decoder at read
  split at read
  · split at read
    · obtain ⟨_, _, impossible⟩ := bind_eq_ok.mp read
      cases impossible
    · obtain ⟨shape, tagged, made⟩ := bind_eq_ok.mp read
      obtain ⟨name, _, known⟩ := tag_ok_iff.mp tagged
      obtain ⟨_, slots, ⟨⟩, assembled⟩ := Record.assembled_of_members made
      exact ⟨_, Keyed.mem_of_lookup known, slots, assembled⟩
  · obtain ⟨_, _, impossible⟩ := bind_eq_ok.mp read
    cases impossible
  · obtain ⟨shape, tagged, made⟩ := bind_eq_ok.mp read
    obtain ⟨name, _, known⟩ := tag_ok_iff.mp tagged
    obtain ⟨_, slots, ⟨⟩, assembled⟩ := Record.assembled_of_items made
    exact ⟨_, Keyed.mem_of_lookup known, slots, assembled⟩
  · exact absurd read Decoder.mismatch_ne_ok

theorem shapes_below : ∀ entry ∈ shapes, ∀ slots operation, entry.2.record.assemble form slots = .ok operation →
    ∀ n, operation.index? = some n → n < 0x8000000000000000 := by
  simp only [shapes, List.map_cons, List.map_nil, List.forall_mem_cons, Record.assemble_seq_ok_iff,
    Record.assemble_map_ok_iff]
  refine ⟨?addFolder, ?addBookmark, ?renameNode, ?moveNode, ?deleteNode, ?updateBookmark, ?saveSession, nofun⟩
  case addFolder =>
    rintro slots _ ⟨_, ⟨_, ⟨_, _, rfl⟩, _, _, rfl⟩, index, read, rfl⟩ n rfl
    exact index_below read
  case addBookmark =>
    rintro slots _ ⟨_, ⟨_, ⟨_, ⟨_, _, rfl⟩, _, _, rfl⟩, _, _, rfl⟩, index, read, rfl⟩ n rfl
    exact index_below read
  case renameNode =>
    rintro slots _ ⟨_, ⟨_, _, rfl⟩, _, _, rfl⟩
    exact nofun
  case moveNode =>
    rintro slots _ ⟨_, ⟨_, ⟨_, _, rfl⟩, _, _, rfl⟩, index, read, rfl⟩ n rfl
    exact index_below read
  case deleteNode =>
    rintro slots _ ⟨_, ⟨_, _, rfl⟩, _, _, rfl⟩
    exact nofun
  case updateBookmark =>
    rintro slots _ ⟨_, ⟨_, ⟨_, _, rfl⟩, _, _, rfl⟩, _, _, rfl⟩
    exact nofun
  case saveSession =>
    rintro slots _ ⟨_, ⟨_, ⟨_, ⟨_, _, rfl⟩, _, _, rfl⟩, _, _, rfl⟩, index, read, rfl⟩ n rfl
    exact index_below read

end Read

-- An index that 64 bits hold.
def Fits (operation : Operation) : Prop :=
  ∀ n, operation.index? = some n → -0x8000000000000000 ≤ n ∧ n < 0x8000000000000000

theorem value_readable {operation : Operation} (fits : operation.Fits) : operation.value.Readable := by
  have index {name : String} {given : Option Int}
      (small : ∀ n, given = some n → -0x8000000000000000 ≤ n ∧ n < 0x8000000000000000) :
      Value.MembersReadable (Value.optional name Value.int given) := by
    refine Value.optional_readable fun n here => ?_
    have bounds := small n here
    exact Value.Exact.readable ⟨bounds.1, by omega⟩
  refine ⟨trivial, ?_⟩
  cases operation with
  | addFolder parentId title given => exact ⟨trivial, trivial, index fits⟩
  | addBookmark parentId title url given => exact ⟨trivial, trivial, trivial, index fits⟩
  | renameNode nodeId title => exact ⟨trivial, trivial, trivial⟩
  | moveNode nodeId newParentId given => exact ⟨trivial, trivial, index fits⟩
  | deleteNode nodeId recursive => exact ⟨trivial, trivial, trivial⟩
  | updateBookmark nodeId title url =>
      exact ⟨trivial, Value.members_readable_append (Value.optional_readable fun _ _ => trivial)
        (Value.optional_readable fun _ _ => trivial)⟩
  | saveSession parentId title tabs given =>
      have each : Value.ItemsReadable (tabs.map Tab.value) :=
        Value.items_readable_iff.mpr (List.forall_mem_map.mpr fun _ _ => ⟨trivial, trivial, trivial⟩)
      exact ⟨trivial, trivial, each, index fits⟩

/-- An operation is read as it was written, from its object and from the text of it. Whatever document is read as an
operation, the object of the operation is read as the same one. And an object is an operation with its members in any
order, members of other names among them and its tabs written likewise, exactly if it is this operation without. -/
theorem coding_faithful :
    (∀ operation : Operation, operation.Fits → ∀ form, decoder form operation.value.document = .ok operation ∧
      decoder.ofSource (Json.Source.ofBytes (Text.bytes operation.value.compact)) = .ok operation) ∧
    (∀ form document operation, decoder form document = .ok operation →
      (∃ members, operation.value = .obj members) ∧ ∀ form, decoder form operation.value.document = .ok operation) ∧
    ∀ members others, Value.Recast (knownNames members) TabsAlike members others → ∀ form operation,
      decoder form (Value.obj members).document = .ok operation ↔
        decoder form (Value.obj others).document = .ok operation := by
  refine ⟨?written, ?accepted, ?recast⟩
  case written =>
    intro operation fits form
    have read (form : Form) := decode_value form fun n given => (fits n given).2
    exact ⟨read form, (Json.of_source_compact decoder (value_readable fits)).trans (read .ofText)⟩
  case accepted =>
    intro form document operation read
    obtain ⟨entry, listed, slots, assembled⟩ := assembled_of_read read
    exact ⟨⟨_, rfl⟩, fun form => decode_value form (shapes_below entry listed slots operation assembled)⟩
  case recast =>
    intro members others recast form operation
    exact decode_recast recast form

def oneTab : Operation := .saveSession "root" "Session" [⟨"Tab", "https://a.example/"⟩] (some 3)

-- The same session with its index first, the url of its tab first, and a member in each that nothing reads.
def oneTabScattered : List (String × Value) :=
  [("index", .int 3), ("color", .null)] ++
    [("type", .str "save_session"), ("parentId", .str "root"), ("title", .str "Session"),
      ("tabs", .arr [.obj ([("url", .str "https://a.example/"), ("note", .bool true)] ++ [("title", .str "Tab")])])]

theorem coding_faithful_session :
    (oneTab.Fits ∧ decoder .value oneTab.value.document = .ok oneTab) ∧
    (decoder .value (Value.strings ["delete_node", "x1"]).document = .ok (.deleteNode "x1" false) ∧
      decoder .value (Operation.deleteNode "x1" false).value.document = .ok (.deleteNode "x1" false)) ∧
    decoder .value (Value.obj oneTabScattered).document = .ok oneTab := by
  have fits : oneTab.Fits := by
    rintro n ⟨⟩
    decide
  have tab : Tab.Alike (Tab.mk "Tab" "https://a.example/").value
      (.obj ([("url", .str "https://a.example/"), ("note", .bool true)] ++ [("title", .str "Tab")])) := by
    refine Or.inr ⟨_, _, rfl, rfl, ?once, [("title", .str "Tab"), ("url", .str "https://a.example/")],
      [("note", .bool true)], ?same, List.perm_append_comm, ?other⟩
    case once =>
      show ["url", "note", "title"].Nodup
      decide
    case same => exact .cons ⟨rfl, rfl⟩ (.cons ⟨rfl, rfl⟩ .nil)
    case other =>
      rintro _ (_ | ⟨_, ⟨⟩⟩)
      show "note" ∉ ["title", "url"]
      decide
  have recast : Value.Recast (knownNames (("type", .str oneTab.name) :: oneTab.members)) TabsAlike
      (("type", .str oneTab.name) :: oneTab.members) oneTabScattered := by
    refine ⟨?once, [("type", .str "save_session"), ("parentId", .str "root"), ("title", .str "Session"),
      ("tabs", .arr [.obj [("url", .str "https://a.example/"), ("note", .bool true), ("title", .str "Tab")]]),
      ("index", .int 3)], [("color", .null)], ?same, List.perm_append_comm, ?other⟩
    case once =>
      show ["index", "color", "type", "parentId", "title", "tabs"].Nodup
      decide
    case same =>
      have tabs : TabsAlike (.arr _) (.arr _) := Or.inr ⟨_, _, rfl, rfl, .cons tab .nil⟩
      exact .cons ⟨rfl, Or.inl rfl⟩ (.cons ⟨rfl, Or.inl rfl⟩ (.cons ⟨rfl, Or.inl rfl⟩
        (.cons ⟨rfl, tabs⟩ (.cons ⟨rfl, Or.inl rfl⟩ .nil))))
    case other =>
      rintro _ (_ | ⟨_, ⟨⟩⟩)
      show "color" ∉ ["type", "parentId", "title", "tabs", "index"]
      decide
  have whole := (coding_faithful.1 oneTab fits .value).1
  have listed : decoder .value (Value.strings ["delete_node", "x1"]).document = .ok (.deleteNode "x1" false) := rfl
  exact ⟨⟨fits, whole⟩, ⟨listed, (coding_faithful.2.1 _ _ _ listed).2 .value⟩,
    (coding_faithful.2.2 _ _ recast .value oneTab).mp whole⟩

end Operation

end Bookmarks
