/-!
The operations that a batch is made of. An index is a position among the siblings, counted from zero;
none means the end.
-/
set_option autoImplicit false

namespace Bookmarks

structure Tab where
  title : String
  url : String
deriving DecidableEq, Repr

inductive Operation where
  | addFolder (parentId title : String) (index : Option Int)
  | addBookmark (parentId title url : String) (index : Option Int)
  | renameNode (nodeId title : String)
  | moveNode (nodeId newParentId : String) (newIndex : Option Int)
  -- Deletes everything below a folder, too; the flag changes nothing.
  | deleteNode (nodeId : String) (recursive : Bool)
  | updateBookmark (nodeId : String) (title url : Option String)
  | saveSession (parentId title : String) (tabs : List Tab) (index : Option Int)
deriving DecidableEq, Repr

def Operation.name : Operation → String
  | .addFolder .. => "add_folder"
  | .addBookmark .. => "add_bookmark"
  | .renameNode .. => "rename_node"
  | .moveNode .. => "move_node"
  | .deleteNode .. => "delete_node"
  | .updateBookmark .. => "update_bookmark"
  | .saveSession .. => "save_session"

end Bookmarks
