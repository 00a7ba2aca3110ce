import Bookmarks.Tree.Codec
import Bookmarks.Json.Text

/-!
The export of a tree as text for people to compare: one entry a line, and an entry among the children
for every node.
-/
set_option autoImplicit false

namespace Bookmarks

open Bookmarks.Json (Value)

def snapshotSchema : Nat := 1

variable {ω : Type} [WrittenOrd ω]

def Tree.snapshot (tree : Tree ω) (generatedAt : Int) : Value :=
  .obj [("schemaVersion", .nat snapshotSchema), ("generatedAt", .int generatedAt),
    ("version", .str tree.version), ("rootId", .str tree.rootId),
    ("nodes", Value.ofKeyed Node.value tree.nodes),
    ("children", .obj (tree.nodes.keys.map fun id => (id, Value.strings (tree.childrenOf id))))]

def Tree.snapshotText (tree : Tree ω) (generatedAt : Int) : String :=
  (tree.snapshot generatedAt).pretty 0 ++ "\n"

end Bookmarks
