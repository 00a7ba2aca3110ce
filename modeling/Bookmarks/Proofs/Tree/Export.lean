import Bookmarks.Proofs.Json.Fields
import Bookmarks.Proofs.Json.Layout
import Bookmarks.Proofs.Order.Exact
import Bookmarks.Proofs.Store.Contents
import Bookmarks.Proofs.Store.Sidecar
import Bookmarks.Proofs.Tree.Canonical
import Bookmarks.Proofs.Tree.Loading

/-!
What is written of a tree. Its object is read as the tree, and the export as the tree with an entry among the children
for every node, so that trees with one export are the same. This is so as far as ords are read as they were written.
-/
set_option autoImplicit false

namespace Bookmarks

open Json (Value Decoder Record Form Token)
open Text (glyphsOf)

variable {ω : Type} [WrittenOrd ω] {form inner : Form}

-- The number of an ord is read as it is written, and stands for the ord.
structure ReadsBack (ord : ω) : Prop where
  alone : Token.ofGlyphs (glyphsOf (WrittenOrd.number ord).text) = [.num (some (WrittenOrd.number ord))]
  same : WrittenOrd.ofNumber (WrittenOrd.number ord) = ord

-- A time that 64 bits hold.
def InRange (time : Int) : Prop := -0x8000000000000000 ≤ time ∧ time < 0x8000000000000000

theorem InRange.exact {time : Int} (range : InRange time) :
    (Value.int time).Exact := ⟨range.1, by have := range.2; omega⟩

theorem Kind.decode_name (kind : Kind) (form : Form) : Kind.decoder form (.str (some kind.name)) = .ok kind := by
  cases kind <;> cases form <;> rfl

namespace Node

structure Printable (node : Node ω) : Prop where
  ord : ReadsBack node.ord
  createdAt : InRange node.createdAt
  updatedAt : InRange node.updatedAt

variable {node : Node ω}

open Json.Record.Lawful in
theorem lawful : (record : Record (Node ω)).Lawful Eq :=
  ((((((((plain _ _ _ _).map _).seq (plain _ _ _ _)).seq (plain _ _ _ _)).seq (plain _ _ _ _)).seq
    (plain _ _ _ _)).seq (plain _ _ _ _)).seq (plain _ _ _ _)).seq (plain _ _ _ _)

open Json.Record in
theorem decode_value (printable : node.Printable) (entered : form.enter = .ok inner) :
    decoder form node.value.document = .ok node := by
  obtain ⟨id, kind, title, url, parentId, ord, createdAt, updatedAt⟩ := node
  have ordered : ordDecoder inner (.num (some (WrittenOrd.number ord))) = .ok ord :=
    congrArg Except.ok printable.ord.same
  have parent : Decoder.option Decoder.text inner (Value.orNull .str parentId).document = .ok parentId := by
    cases parentId <;> rfl
  refine decode_written lawful "struct Node" ?once entered ?read
  case once => cases url <;> simp [Value.optional]
  case read =>
    refine assemble_seq (assemble_seq (assemble_seq (assemble_seq (assemble_seq (assemble_seq (assemble_seq
      (assemble_map _ (assemble_field rfl rfl)) (assemble_field rfl (kind.decode_name inner))) (assemble_field rfl rfl))
      (assemble_text ?url)) (assemble_field ?parent parent)) (assemble_field ?ord ordered))
      (assemble_field ?created (Decoder.integer_ok printable.createdAt.2)))
      (assemble_field ?updated (Decoder.integer_ok printable.updatedAt.2))
    all_goals cases url <;> rfl

theorem value_readable (printable : node.Printable) : node.value.Readable := by
  obtain ⟨id, kind, title, url, parentId, ord, createdAt, updatedAt⟩ := node
  have parent : (Value.orNull .str parentId).Readable := by
    cases parentId <;> trivial
  have number : (WrittenOrd.number ord).Readable := Json.readable_of_alone printable.ord.alone
  have created := printable.createdAt.exact.readable
  have updated := printable.updatedAt.exact.readable
  cases url with
  | none => exact ⟨trivial, trivial, trivial, parent, number, created, updated, trivial⟩
  | some url => exact ⟨trivial, trivial, trivial, trivial, parent, number, created, updated, trivial⟩

end Node

namespace Tree

def Printable (tree : Tree ω) : Prop := ∀ entry ∈ tree.nodes.entries, entry.2.Printable

-- The tree with an entry among the children for every node.
def filled (tree : Tree ω) : Tree ω := { tree with children := tree.nodes.map fun id _ => tree.childrenOf id }

variable {tree : Tree ω} {members : List (String × Value)}

open Json.Record.Lawful in
theorem lawful : (record : Record (Tree ω)).Lawful Eq :=
  ((((plain _ _ _ _).map _).seq (plain _ _ _ _)).seq (plain _ _ _ _)).seq (plain _ _ _ _)

variable {middle last : Form}

-- An object in which the four members of a tree stand is read as the tree, whatever else is in it.
open Json.Record in
theorem decode_members (printable : tree.Printable) (entered : form.enter = .ok inner)
    (deeper : inner.enter = .ok middle) (deepest : middle.enter = .ok last) (once : (members.map (·.1)).Nodup)
    (version : Keyed.lookup "version" members = some (.str tree.version))
    (rootId : Keyed.lookup "rootId" members = some (.str tree.rootId))
    (nodes : Keyed.lookup "nodes" members = some (Value.ofKeyed Node.value tree.nodes))
    (children : Keyed.lookup "children" members = some (Value.ofKeyed Value.strings tree.children)) :
    decoder form (Value.obj members).document = .ok tree := by
  have found {name : String} {value : Value} (there : Keyed.lookup name members = some value) :
      Keyed.lookup name (Value.slots members) = some value.document := by
    rw [Json.lookup_slots, there]
    rfl
  have nodesRead : Decoder.keyed Node.decoder inner (Value.ofKeyed Node.value tree.nodes).document = .ok tree.nodes :=
    Decoder.keyed_ok tree.nodes deeper fun entry member => Node.decode_value (printable entry member) deepest
  have childrenRead : Decoder.keyed (Decoder.list Decoder.text) inner (Value.ofKeyed Value.strings tree.children).document =
      .ok tree.children :=
    Decoder.keyed_ok tree.children deeper fun entry _ => Decoder.strings_ok entry.2 deepest
  exact decode_written lawful "struct Tree" once entered
    (assemble_seq (assemble_seq (assemble_seq (assemble_map _ (assemble_field (found version) rfl))
      (assemble_field (found rootId) rfl)) (assemble_field (found nodes) nodesRead))
      (assemble_field (found children) childrenRead))

theorem decode_value (printable : tree.Printable) (entered : form.enter = .ok inner) (deeper : inner.enter = .ok middle)
    (deepest : middle.enter = .ok last) : decoder form tree.value.document = .ok tree := by
  refine decode_members printable entered deeper deepest ?once rfl rfl rfl rfl
  show ["version", "rootId", "nodes", "children"].Nodup
  decide

theorem snapshot_eq (tree : Tree ω) (now : Int) :
    tree.snapshot now = .obj [("schemaVersion", .nat snapshotSchema), ("generatedAt", .int now),
      ("version", .str tree.version), ("rootId", .str tree.rootId), ("nodes", Value.ofKeyed Node.value tree.nodes),
      ("children", Value.ofKeyed Value.strings tree.filled.children)] := by
  simp [snapshot, filled, Value.ofKeyed, Keyed.keys, Keyed.map]

theorem decode_snapshot (printable : tree.Printable) (now : Int) :
    decoder .ofText (tree.snapshot now).document = .ok tree.filled := by
  have filled : tree.filled.Printable := printable
  rw [snapshot_eq]
  refine decode_members filled rfl rfl rfl ?once rfl rfl rfl rfl
  show ["schemaVersion", "generatedAt", "version", "rootId", "nodes", "children"].Nodup
  decide

theorem value_readable (printable : tree.Printable) : tree.value.Readable :=
  ⟨trivial, trivial, Value.of_keyed_readable fun entry member => Node.value_readable (printable entry member),
    Value.of_keyed_readable fun entry _ => Value.strings_readable entry.2, trivial⟩

theorem snapshot_readable (printable : tree.Printable) {now : Int} (range : InRange now) :
    (tree.snapshot now).Readable := by
  have schema : (Value.nat snapshotSchema).Readable := Value.Exact.readable ⟨by decide, by decide⟩
  rw [snapshot_eq]
  exact ⟨schema, range.exact.readable, trivial, trivial,
    Value.of_keyed_readable fun entry member => Node.value_readable (printable entry member),
    Value.of_keyed_readable fun entry _ => Value.strings_readable entry.2, trivial⟩

theorem read_snapshot (printable : tree.Printable) {now : Int} (range : InRange now) :
    decoder.ofSource (Json.Source.ofBytes (Text.bytes (tree.snapshotText now))) = .ok tree.filled :=
  (Json.of_source_pretty decoder (snapshot_readable printable range)).trans (decode_snapshot printable now)

omit [WrittenOrd ω] in
theorem filled_children {id : String} (there : tree.nodes.contains id = true) :
    tree.filled.children.contains id = true ∧ tree.filled.childrenOf id = tree.childrenOf id := by
  obtain ⟨node, found⟩ := Keyed.contains_iff.mp there
  have entry : tree.filled.children.get? id = some (tree.childrenOf id) := by
    rw [filled, Keyed.get?_map, found]
    rfl
  exact ⟨Keyed.contains_iff.mpr ⟨_, entry⟩, by rw [childrenOf, entry]; rfl⟩

end Tree

namespace Store

variable {store : Store ω} {tree : Tree ω}

theorem of_nodes_of_load (loaded : store.load = .ok tree) : ∃ nodes, tree = Tree.ofNodes tree.version nodes := by
  obtain ⟨version, _, shown⟩ := bind_eq_ok.mp loaded
  cases made : store.rows.nodes with
  | error failure =>
      rw [Rows.tree, made] at shown
      cases shown
  | ok nodes =>
      rw [Rows.tree, made] at shown
      cases shown
      exact ⟨nodes, rfl⟩

/-- A tree that was loaded is read from its export with its version, its root, its nodes and, for every node, an entry
with its children. From its own object and from the text of that it is read as it is. So two trees with one export, at
whatever times, are one tree. -/
theorem export_faithful (loaded : store.load = .ok tree) (printable : tree.Printable) :
    (∀ (target : Store ω) (now : Int), (target.writeSnapshot now tree).1 = .ok () →
      ∃ content, (target.writeSnapshot now tree).2.file? snapshotFile = some content ∧
        content.readText = .ok (tree.snapshotText now)) ∧
    (∀ now, InRange now → ∃ shown,
      Tree.decoder.ofSource (Json.Source.ofBytes (Text.bytes (tree.snapshotText now))) = .ok shown ∧
      shown.version = tree.version ∧ shown.rootId = tree.rootId ∧ shown.nodes = tree.nodes ∧
      ∀ id, tree.nodes.contains id = true →
        shown.children.contains id = true ∧ shown.childrenOf id = tree.childrenOf id) ∧
    (Tree.decoder.ofValue tree.value = .ok tree ∧
      Tree.decoder.ofSource (Json.Source.ofBytes (Text.bytes tree.value.compact)) = .ok tree) ∧
    ∀ (other : Store ω) (another : Tree ω), other.load = .ok another → another.Printable →
      ∀ now later, InRange now → InRange later → tree.snapshotText now = another.snapshotText later → tree = another := by
  refine ⟨?file, ?snapshot, ?object, ?injective⟩
  case file =>
    intro target now done
    refine ⟨.snapshot tree now, ?_, rfl⟩
    rw [writeSnapshot, file_of_replaced done, if_pos rfl]
  case snapshot =>
    intro now range
    exact ⟨tree.filled, Tree.read_snapshot printable range, rfl, rfl, rfl, fun id => Tree.filled_children⟩
  case object =>
    exact ⟨Tree.decode_value printable rfl rfl rfl,
      (Json.of_source_compact Tree.decoder (Tree.value_readable printable)).trans (Tree.decode_value printable rfl rfl rfl)⟩
  case injective =>
    intro other another loadedOther printableOther now later range rangeOther same
    have read := Tree.read_snapshot printable range
    rw [same, Tree.read_snapshot printableOther rangeOther] at read
    have equal : another.filled = tree.filled := Except.ok.inj read
    have versions : another.version = tree.version := congrArg (·.version) equal
    have nodes : another.nodes = tree.nodes := congrArg (·.nodes) equal
    obtain ⟨listed, made⟩ := of_nodes_of_load loaded
    obtain ⟨listedOther, madeOther⟩ := of_nodes_of_load loadedOther
    rw [made, madeOther, versions] at nodes ⊢
    exact Tree.of_nodes_ext nodes.symm

theorem whole_reads_back {n : Int} (range : InRange n) : ReadsBack (n : ℚ) := by
  have number : WrittenOrd.number (n : ℚ) = .int n := by
    simp [WrittenOrd.number]
  have high : n < 0x10000000000000000 := by
    have bound := range.2
    omega
  have ends : Token.prolongs [] = false := rfl
  have read := Json.of_glyphs_int range.1 high ends
  rw [List.append_nil, Token.ofGlyphs] at read
  exact ⟨by rw [number]; exact read, by rw [number]; rfl⟩

-- The rows of a folder and a bookmark in it.
def shelved (title : String) : List (String × Row ℚ) :=
  [("root", ⟨Kind.folder.name, "Root", none, none, ((0 : Int) : ℚ), 0, 0⟩),
    ("x1", ⟨Kind.folder.name, "A", none, some "root", ((0 : Int) : ℚ), 0, 0⟩),
    ("x2", ⟨Kind.bookmark.name, title, some "https://a.example/", some "x1", ((1 : Int) : ℚ), 5, 7⟩)]

def shelf (title : String) : Store ℚ := ⟨"state.db", ⟨Keyed.ofList (shelved title), 1⟩, true, ∅, {}⟩

theorem shelf_loads (title : String) : ∃ tree, (shelf title).load = .ok tree ∧ tree.Printable ∧
    ∃ node, tree.nodes.get? "x2" = some node ∧ node.title = title := by
  have listed {id : String} {row : Row ℚ} (stored : (shelf title).rows.get? id = some row) : (id, row) ∈ shelved title :=
    Keyed.mem_of_get?_of_list stored
  have known : ∀ entry ∈ shelved title, ∃ kind : Kind, kind.name = entry.2.kind := by
    simp only [shelved, List.forall_mem_cons]
    exact ⟨⟨.folder, rfl⟩, ⟨.folder, rfl⟩, ⟨.bookmark, rfl⟩, List.forall_mem_nil _⟩
  have legible : Rows.Legible (shelf title).rows := by
    intro id row stored
    obtain ⟨kind, named⟩ := known _ (listed stored)
    exact ⟨kind, named ▸ Kind.ofName?_name kind⟩
  have small {n : Int} (bounded : -9 ≤ n ∧ n ≤ 9) : InRange n := ⟨by omega, by omega⟩
  have sound : ∀ entry ∈ shelved title,
      ReadsBack entry.2.ord ∧ InRange entry.2.createdAt ∧ InRange entry.2.updatedAt := by
    simp only [shelved, List.forall_mem_cons]
    exact ⟨⟨whole_reads_back (small (by decide)), small (by decide), small (by decide)⟩,
      ⟨whole_reads_back (small (by decide)), small (by decide), small (by decide)⟩,
      ⟨whole_reads_back (small (by decide)), small (by decide), small (by decide)⟩, List.forall_mem_nil _⟩
  have unversioned : (shelf title).file? (sidecar "state.db") = none := by
    have elsewhere : "state.db" ≠ sidecar "state.db" := by decide
    show (Keyed.insert ∅ "state.db" _).get? (sidecar "state.db") = none
    rw [Keyed.get?_insert, if_neg elsewhere, Keyed.get?_empty]
  have read : (shelf title).version = .ok uninitialized := by
    rw [version, show (shelf title).path = "state.db" from rfl, unversioned]
  obtain ⟨tree, shown, _, _, nodes, _⟩ := Rows.tree_ok legible uninitialized
  refine ⟨tree, (bind_of_ok read _).trans shown, ?printable, ?node⟩
  case printable =>
    rintro ⟨id, node⟩ member
    have found := Keyed.get?_eq_some_iff.mpr member
    rw [nodes, Keyed.get?_map] at found
    obtain ⟨row, stored, rfl⟩ := Option.map_eq_some_iff.mp found
    obtain ⟨ord, created, updated⟩ := sound _ (listed stored)
    exact ⟨ord, created, updated⟩
  case node =>
    have stored : ∃ row, (shelf title).rows.get? "x2" = some row ∧ row.title = title := by
      show ∃ row, (Keyed.ofList (shelved title)).get? "x2" = some row ∧ row.title = title
      rw [Keyed.get?_of_list]
      exact ⟨_, rfl, rfl⟩
    obtain ⟨row, there, named⟩ := stored
    rw [nodes, Keyed.get?_map, there]
    exact ⟨_, rfl, named⟩

-- An export whose marks have to be escaped, and one of the same store after the bookmark was renamed.
theorem export_faithful_shelf : ∃ tree another, (shelf "say \"a\\b\"\n").load = .ok tree ∧ (shelf "b").load = .ok another ∧
    (∃ content, ((shelf "b").writeSnapshot 9 tree).2.file? snapshotFile = some content ∧
      content.readText = .ok (tree.snapshotText 9)) ∧
    (∃ shown, Tree.decoder.ofSource (Json.Source.ofBytes (Text.bytes (tree.snapshotText 9))) = .ok shown ∧
      shown.nodes = tree.nodes) ∧
    Tree.decoder.ofValue tree.value = .ok tree ∧ tree.snapshotText 9 ≠ another.snapshotText 10 := by
  obtain ⟨tree, loaded, printable, node, stored, title⟩ := shelf_loads "say \"a\\b\"\n"
  obtain ⟨another, loadedOther, printableOther, nodeOther, storedOther, titleOther⟩ := shelf_loads "b"
  have faithful := export_faithful loaded printable
  have done : ((shelf "b").writeSnapshot 9 tree).1 = .ok () := replace_file_ok _ (by rfl) (by rfl)
  have now : InRange 9 := by constructor <;> decide
  have later : InRange 10 := by constructor <;> decide
  obtain ⟨shown, read, _, _, nodes, _⟩ := faithful.2.1 9 now
  refine ⟨tree, another, loaded, loadedOther, faithful.1 (shelf "b") 9 done, ⟨shown, read, nodes⟩, faithful.2.2.1.1, ?_⟩
  intro same
  have equal := faithful.2.2.2 (shelf "b") another loadedOther printableOther 9 10 now later same
  rw [equal, storedOther] at stored
  cases stored
  rw [titleOther] at title
  exact absurd title (by decide)

end Store

end Bookmarks
