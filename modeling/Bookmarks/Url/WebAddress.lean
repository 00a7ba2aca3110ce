import Bookmarks.Url.Domain
import Bookmarks.Url.Ipv6
import Bookmarks.Text.Blank
import Bookmarks.Text.Utf8

/-!
The check of a bookmark's url: an address on the web with a host. Blanks and control characters around
it do not count, and tabs and line ends count nowhere.
-/
set_option autoImplicit false

namespace Bookmarks.Url

open Bookmarks.Decimal (natOfDigits)

def isTrimmed (c : Char) : Bool := c.toNat ≤ 0x20

def isSkipped (c : Char) : Bool := c = '\t' || c = '\n' || c = '\r'

def cleaned (text : List Char) : List Char :=
  (Text.trimBoth isTrimmed text).filter fun c => !isSkipped c

def schemes : List (List Char) := [['h', 't', 't', 'p'], ['h', 't', 't', 'p', 's']]

def afterScheme? (text : List Char) : Option (List Char) :=
  match text.dropWhile (· != ':') with
  | [] => none
  | _ :: rest =>
    if (text.takeWhile (· != ':')).map Char.toLower ∈ schemes then some rest else none

def isSlash (c : Char) : Bool := c = '/' || c = '\\'

def endsAuthority (c : Char) : Bool := isSlash c || c = '?' || c = '#'

def authority (text : List Char) : List Char :=
  (text.dropWhile isSlash).takeWhile fun c => !endsAuthority c

def withoutUser (authority : List Char) : List Char :=
  (authority.reverse.takeWhile (· != '@')).reverse

-- The host: what stands before the first colon that is not in brackets.
def hostOf (inBrackets : Bool) : List Char → List Char
  | [] => []
  | c :: rest =>
    if c = ':' && !inBrackets then []
    else c :: hostOf (if c = '[' then true else if c = ']' then false else inBrackets) rest

-- What follows the host is nothing or a colon and a port, which may be empty.
def isPort : List Char → Bool
  | [] => true
  | _ :: digits => digits.all Char.isDigit && natOfDigits digits ≤ 65535

def percentDecoded : List UInt8 → List UInt8
  | 0x25 :: a :: b :: rest =>
    let high := Char.ofNat a.toNat
    let low := Char.ofNat b.toNat
    if Text.Hex.isDigit high && Text.Hex.isDigit low then
      (Text.Hex.number [high, low]).toUInt8 :: percentDecoded rest
    else 0x25 :: percentDecoded (a :: b :: rest)
  | byte :: rest => byte :: percentDecoded rest
  | [] => []

-- A name that can be looked up, or an address if it ends in a number.
def isName (host : List Char) : Bool :=
  match Text.ofBytes? (percentDecoded (Text.bytes (String.ofList host))) with
  | none => false
  | some name =>
    match labels? name with
    | none => false
    | some labels => labels != [[]] && (!Ipv4.isMeant labels || Ipv4.isAddress labels)

def isHost : List Char → Bool
  | [] => false
  | '[' :: rest => rest.getLast? == some ']' && Ipv6.isAddress rest.dropLast
  | host => isName host

def host? (text : List Char) : Option (List Char) := do
  let rest ← afterScheme? text
  let place := withoutUser (authority rest)
  let host := hostOf false place
  if isHost host && isPort (place.drop host.length) then some host else none

def isWebAddress (text : String) : Bool :=
  !Text.isAllBlank text && (host? (cleaned text.toList)).isSome

end Bookmarks.Url
