import Bookmarks.Text.Hex

/-!
New ids: 32 hexadecimal digits, first the time in milliseconds, then a mark, then a serial number. Ids
of one source ascend in the order in which they are made, also when the clock goes back.
-/
set_option autoImplicit false

namespace Bookmarks

structure IdSource where
  latest : Nat := 0
  count : Nat := 0
deriving DecidableEq, Repr

namespace IdSource

def advance (source : IdSource) (now : Int) : IdSource :=
  ⟨max source.latest now.toNat, source.count + 1⟩

def text (source : IdSource) : String :=
  String.ofList (Text.Hex.digits 12 source.latest ++ '7' :: Text.Hex.digits 19 source.count)

def next (source : IdSource) (now : Int) : String × IdSource :=
  let advanced := source.advance now
  (advanced.text, advanced)

def nextTrace (source : IdSource) (now : Int) : String × IdSource :=
  let (id, advanced) := source.next now
  ("ipc-" ++ id, advanced)

def isId (text : String) : Bool :=
  text.length == 32 && text.toList.all Text.Hex.isDigit && text.toList[12]? == some '7'

end IdSource

end Bookmarks
