/-!
What can go wrong with the store.
-/
set_option autoImplicit false

namespace Bookmarks

inductive DatabaseFault where
  | missingParent
  | missingOrd
  -- The file was replaced after the database had been opened.
  | replaced
  | notADatabase
  | cannotOpen
deriving DecidableEq, Repr

def DatabaseFault.message : DatabaseFault → String
  | .missingParent => "FOREIGN KEY constraint failed"
  | .missingOrd => "NOT NULL constraint failed: nodes.ord"
  | .replaced => "attempt to write a readonly database"
  | .notADatabase => "file is not a database"
  | .cannotOpen => "unable to open database file"

inductive StoreError where
  | database (fault : DatabaseFault)
  | io (message : String)
  | noRows (operation nodeId : String)
  | corrupt (message : String)
  -- The work on the store was broken off.
  | abandoned (message : String)
deriving DecidableEq, Repr

namespace StoreError

def message : StoreError → String
  | .database fault => "sqlite error: " ++ fault.message
  | .io message => "io error: " ++ message
  | .noRows operation nodeId => operation ++ " affected no rows for node " ++ nodeId
  | .corrupt message => "corrupt store: " ++ message
  | .abandoned message => "storage task failed: " ++ message

def isDirectory : StoreError := .io "Is a directory (os error 21)"

def isNoText : StoreError := .io "stream did not contain valid UTF-8"

end StoreError

end Bookmarks
