import Bookmarks.Operation.Basic
import Bookmarks.Json.Decoder

/-!
Operations as JSON: objects whose `type` tells the operation, or lists that begin with it.
-/
set_option autoImplicit false

namespace Bookmarks

open Bookmarks.Json (Value Decoder Record Document Form)

namespace Tab

def value (tab : Tab) : Value := .obj [("title", .str tab.title), ("url", .str tab.url)]

def record : Record Tab :=
  Tab.mk <$> Record.defaulted "title" Decoder.text "" <*> Record.required "url" Decoder.text

def decoder : Decoder Tab := record.decoder "struct Tab"

end Tab

namespace Operation

def members : Operation → List (String × Value)
  | .addFolder parentId title index =>
    [("parentId", .str parentId), ("title", .str title)] ++ Value.optional "index" .int index
  | .addBookmark parentId title url index =>
    [("parentId", .str parentId), ("title", .str title), ("url", .str url)] ++
      Value.optional "index" .int index
  | .renameNode nodeId title => [("nodeId", .str nodeId), ("title", .str title)]
  | .moveNode nodeId newParentId newIndex =>
    [("nodeId", .str nodeId), ("newParentId", .str newParentId)] ++
      Value.optional "newIndex" .int newIndex
  | .deleteNode nodeId recursive => [("nodeId", .str nodeId), ("recursive", .bool recursive)]
  | .updateBookmark nodeId title url =>
    [("nodeId", .str nodeId)] ++ Value.optional "title" .str title ++ Value.optional "url" .str url
  | .saveSession parentId title tabs index =>
    [("parentId", .str parentId), ("title", .str title), ("tabs", .arr (tabs.map Tab.value))] ++
      Value.optional "index" .int index

def value (operation : Operation) : Value :=
  .obj (("type", .str operation.name) :: operation.members)

def parentField : Record String := .required "parentId" Decoder.text

def nodeField : Record String := .required "nodeId" Decoder.text

def titleField : Record String := .defaulted "title" Decoder.text ""

def indexField (name : String) : Record (Option Int) := .optional name Decoder.integer

structure Shape where
  label : String
  record : Record Operation

def shapes : List (String × Shape) :=
  [("add_folder", "struct variant Operation::AddFolder",
      addFolder <$> parentField <*> titleField <*> indexField "index"),
    ("add_bookmark", "struct variant Operation::AddBookmark",
      addBookmark <$> parentField <*> titleField <*> .required "url" Decoder.text
        <*> indexField "index"),
    ("rename_node", "struct variant Operation::RenameNode",
      renameNode <$> nodeField <*> titleField),
    ("move_node", "struct variant Operation::MoveNode",
      moveNode <$> nodeField <*> .required "newParentId" Decoder.text <*> indexField "newIndex"),
    ("delete_node", "struct variant Operation::DeleteNode",
      deleteNode <$> nodeField <*> .defaulted "recursive" Decoder.flag false),
    ("update_bookmark", "struct variant Operation::UpdateBookmark",
      updateBookmark <$> nodeField <*> .optional "title" Decoder.text
        <*> .optional "url" Decoder.text),
    ("save_session", "struct variant Operation::SaveSession",
      saveSession <$> parentField <*> titleField
        <*> .defaulted "tabs" (Decoder.list Tab.decoder) [] <*> indexField "index")].map
    fun (name, label, record) => (name, ⟨label, record⟩)

def tagDecoder : Decoder Shape := fun _ document =>
  match document with
  | .str (some name) => Decoder.variant shapes name
  | other => Decoder.mismatch "variant identifier" other

def isTag (member : Option String × Document) : Bool := member.1 == some "type"

-- The tag is looked at before everything else.
def decoder : Decoder Operation := fun form document =>
  match document with
  | .obj members ending =>
    match members.find? isTag with
    | none => do
      Decoder.closed ending ()
      .error (.shape (.missing "type"))
    | some tag => do
      let shape ← tagDecoder form tag.2
      shape.record.ofMembers .content (members.filter fun member => !isTag member) ending
  | .arr [] ending => do
    Decoder.closed ending ()
    .error (.shape (.missing "type"))
  | .arr (tag :: fields) ending => do
    let shape ← tagDecoder form tag
    shape.record.ofItems shape.label .content fields ending
  | other => Decoder.mismatch "internally tagged enum Operation" other

end Operation

end Bookmarks
