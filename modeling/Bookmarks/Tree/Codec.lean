import Bookmarks.Tree.Basic
import Bookmarks.Json.Decoder

/-!
Nodes and trees as JSON.
-/
set_option autoImplicit false

namespace Bookmarks

open Bookmarks.Json (Value Decoder Record)

class WrittenOrd (ω : Type) extends SiblingOrd ω where
  number : ω → Json.Number
  ofNumber : Json.Number → ω

instance : WrittenOrd Float where
  number x := .float x
  ofNumber n := n.toFloat

def Kind.decoder : Decoder Kind := Decoder.choice Kind.named

variable {ω : Type} [WrittenOrd ω]

def ordDecoder : Decoder ω := fun _ document =>
  match document with
  | .num (some n) => .ok (WrittenOrd.ofNumber n)
  | other => Decoder.mismatch "f64" other

namespace Node

def value (node : Node ω) : Value :=
  .obj ([("id", .str node.id), ("kind", .str node.kind.name), ("title", .str node.title)] ++
    Value.optional "url" .str node.url ++
    [("parentId", Value.orNull .str node.parentId), ("ord", .num (WrittenOrd.number node.ord)),
      ("createdAt", .int node.createdAt), ("updatedAt", .int node.updatedAt)])

def record : Record (Node ω) :=
  Node.mk <$> Record.required "id" Decoder.text
    <*> Record.required "kind" Kind.decoder
    <*> Record.required "title" Decoder.text
    <*> Record.optional "url" Decoder.text
    <*> Record.nullable "parentId" Decoder.text
    <*> Record.required "ord" ordDecoder
    <*> Record.required "createdAt" Decoder.integer
    <*> Record.required "updatedAt" Decoder.integer

def decoder : Decoder (Node ω) := record.decoder "struct Node"

end Node

namespace Tree

-- A tree as an object, in which only parents have an entry among the children.
def value (tree : Tree ω) : Value :=
  .obj [("version", .str tree.version), ("rootId", .str tree.rootId),
    ("nodes", Value.ofKeyed Node.value tree.nodes),
    ("children", Value.ofKeyed Value.strings tree.children)]

def record : Record (Tree ω) :=
  Tree.mk <$> Record.required "version" Decoder.text
    <*> Record.required "rootId" Decoder.text
    <*> Record.required "nodes" (Decoder.keyed Node.decoder)
    <*> Record.defaulted "children" (Decoder.keyed (Decoder.list Decoder.text)) ∅

def decoder : Decoder (Tree ω) := record.decoder "struct Tree"

end Tree

end Bookmarks
