/-!
Paths of files, as text with slashes between the parts.
-/
set_option autoImplicit false

namespace Bookmarks

namespace Path

def fileName (path : String) : String :=
  String.ofList (path.toList.reverse.takeWhile (· != '/')).reverse

def parent (path : String) : String :=
  String.ofList (path.toList.reverse.dropWhile (· != '/')).reverse

-- A file name without its extension, which begins at the last point, but not at the start.
def stem (name : String) : String :=
  let before := (name.toList.reverse.dropWhile (· != '.')).drop 1
  if before.isEmpty then name else String.ofList before.reverse

-- A path that ends in the name of a file, with another extension.
def withExtension (path extension : String) : String :=
  parent path ++ stem (fileName path) ++ "." ++ extension

def isAbsolute (path : String) : Bool := path.toList.head? = some '/'

-- A path as seen from a directory: an absolute one stays as it is, and a slash separates the two
-- where the directory does not end in one.
def join (directory path : String) : String :=
  let last := directory.toList.getLast?
  if isAbsolute path then path
  else if last = none || last = some '/' then directory ++ path
  else directory ++ "/" ++ path

-- The parts of a path. Empty ones and those that stay in the same directory are left out.
def parts (path : String) : List String :=
  (path.splitOn "/").filter fun part => part != "" && part != "."

end Path

end Bookmarks
