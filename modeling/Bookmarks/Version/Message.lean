/-!
The message of a commit. Blanks at the ends of lines and empty lines around a message do not count, and
several empty lines count as one; a message with nothing in it is refused.
-/
set_option autoImplicit false

namespace Bookmarks.Message

def isSpace (c : Char) : Bool := c = ' ' || c = '\t' || c = '\r'

def splitLines : List Char → List (List Char)
  | [] => [[]]
  | '\n' :: rest => [] :: splitLines rest
  | c :: rest =>
    match splitLines rest with
    | line :: more => (c :: line) :: more
    | [] => [[c]]

def trimEnd (line : List Char) : List Char := (line.reverse.dropWhile isSpace).reverse

-- Makes one empty line of several, and none of those at the start.
def squeeze : List (List Char) → List (List Char)
  | [] => []
  | [] :: rest =>
    match squeeze rest with
    | [] => []
    | line :: more => if line.isEmpty then line :: more else [] :: line :: more
  | line :: rest => line :: squeeze rest

def lines (message : String) : List (List Char) :=
  (squeeze ((splitLines message.toList).map trimEnd)).dropWhile List.isEmpty

def isEmpty (message : String) : Bool := (lines message).isEmpty

def subject (message : String) : String :=
  " ".intercalate (((lines message).takeWhile (!·.isEmpty)).map String.ofList)

end Bookmarks.Message
