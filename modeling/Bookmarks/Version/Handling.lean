import Bookmarks.Keyed
import Bookmarks.Text.Part

/-!
What git does with the files of a directory: which of them it stages, and how those of one commit give way to those of
another. A repository asks nothing else about its directory, which can hold whatever it likes, also directories and
files that are ignored. `Handling.plain` is what git does where there are only files, none of them is ignored, and no
path is a pattern.
-/
set_option autoImplicit false

namespace Bookmarks

-- How a directory of type `δ` is treated, in which there are files of type `κ`.
structure Handling (κ δ : Type) where
  -- The file at a path, as it is staged; none if there is no file.
  content : δ → String → Option κ
  -- Whether all that is at these paths can be staged, and at which paths something is: if one cannot be staged, others
  -- can be all the same.
  add : δ → Keyed κ → List String → Bool × List String
  -- What is staged, and the directory, when the files of a commit give way to those of a later one; or what is printed
  -- if that is refused.
  forward : Keyed κ → Keyed κ → Keyed κ → δ → Except String (Keyed κ × δ)
  -- The same when the files of a commit are put in the place of whatever is there.
  checkOut : Keyed κ → Keyed κ → δ → Except String (Keyed κ × δ)

namespace Handling

variable {κ : Type}

def setFile (files : Keyed κ) (path : String) : Option κ → Keyed κ
  | some content => files.insert path content
  | none => files.erase path

-- What would be lost at a path.
inductive Obstacle where
  -- A change that is in no commit.
  | changed
  -- A file that the later commit has, too.
  | untracked
  -- A file that the later commit does not have any more.
  | removed
deriving DecidableEq, Repr

namespace Obstacle

def heading : Obstacle → String
  | .changed => "error: Your local changes to the following files would be overwritten by merge:"
  | .untracked => "error: The following untracked working tree files would be overwritten by merge:"
  | .removed => "error: The following untracked working tree files would be removed by merge:"

def advice : Obstacle → String
  | .changed => "Please commit your changes or stash them before you merge."
  | .untracked => "Please move or remove them before you merge."
  | .removed => "Please move or remove them before you merge."

def lines (obstacle : Obstacle) (paths : List String) : List String :=
  if paths.isEmpty then []
  else [obstacle.heading] ++ paths.map (fun path => "\t" ++ path) ++ [obstacle.advice]

end Obstacle

inductive Move where
  | keep
  | replace
  | refuse (obstacle : Obstacle)
deriving DecidableEq, Repr

def Move.isRefusal : Move → Bool
  | .refuse _ => true
  | _ => false

-- A file that both commits have alike, or that is staged as the later one has it, stays. Another
-- one is replaced if that loses nothing: it is as the earlier commit has it, or not there.
def moveOf [BEq κ] (before after staged file : Option κ) : Move :=
  if before == after then .keep
  else
    match staged with
    | some _ =>
      if staged == after then .keep
      else if staged == before && (file.isNone || file == before) then .replace
      else .refuse .changed
    | none =>
      match before, after with
      | none, _ => if file.isNone then .replace else .refuse .untracked
      | some _, some _ => .refuse .changed
      | some _, none => if file.isNone then .replace else .refuse .removed

def pathsOf (before after : Keyed κ) : List String :=
  before.keys ++ after.keys.filter fun path => !before.contains path

-- The paths at which something would be lost are printed.
def forwardPlain [BEq κ] (before after index files : Keyed κ) : Except String (Keyed κ × Keyed κ) :=
  let move (path : String) :=
    moveOf (before.get? path) (after.get? path) (index.get? path) (files.get? path)
  let paths := pathsOf before after
  if paths.any fun path => (move path).isRefusal then
    let refused (obstacle : Obstacle) := obstacle.lines (paths.filter fun path => move path = .refuse obstacle)
    .error ("\n".intercalate (refused .changed ++ refused .untracked ++ refused .removed ++ ["Aborting"]))
  else
    let replaced := paths.filter fun path => move path = .replace
    let update (table : Keyed κ) :=
      replaced.foldl (fun table path => setFile table path (after.get? path)) table
    .ok (update index, update files)

-- Files that had been staged and that the commit does not have are removed.
def checkOutPlain (after index files : Keyed κ) : Keyed κ × Keyed κ :=
  let kept := index.keys.foldl Keyed.erase files
  (after, after.entries.foldl (fun files entry => files.insert entry.1 entry.2) kept)

-- There is a file at each path, or one that had been staged.
def knows (files index : Keyed κ) (paths : List String) : Bool :=
  paths.all fun path => files.contains path || index.contains path

def plain [BEq κ] : Handling κ (Keyed κ) where
  content files path := files.get? path
  add files index paths := if knows files index paths then (true, paths) else (false, [])
  forward := forwardPlain
  checkOut after index files := .ok (checkOutPlain after index files)

end Handling

end Bookmarks
