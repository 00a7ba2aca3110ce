/-!
Frames: a length in four bytes, the lowest first, and as many bytes. A stream delivers its bytes in
chunks of any size; what is read does not depend on where they are cut.
-/
set_option autoImplicit false

namespace Bookmarks

abbrev Bytes := List UInt8

inductive FrameError where
  | tooLarge (length max : Nat)
  -- The stream ends after some bytes of a length.
  | endInLength (read : Nat)
  -- The stream ends before as many bytes as the length says.
  | endInBody
deriving DecidableEq, Repr

def FrameError.message : FrameError → String
  | .tooLarge length max =>
    "frame of " ++ toString length ++ " bytes exceeds maximum of " ++ toString max
  | .endInLength read =>
    "io error: connection closed after " ++ toString read ++ " of 4 length bytes"
  | .endInBody => "io error: early eof"

namespace Frame

def defaultMax : Nat := 16 * 1024 * 1024

def lengthLimit : Nat := 0xFFFFFFFF

def lengthBytes (length : Nat) : Bytes :=
  [length.toUInt8, (length / 0x100).toUInt8, (length / 0x10000).toUInt8, (length / 0x1000000).toUInt8]

def lengthOf (a b c d : UInt8) : Nat :=
  a.toNat + 0x100 * b.toNat + 0x10000 * c.toNat + 0x1000000 * d.toNat

def write (payload : Bytes) : Except FrameError Bytes :=
  if payload.length ≤ lengthLimit then .ok (lengthBytes payload.length ++ payload)
  else .error (.tooLarge payload.length lengthLimit)

abbrev Stream := List Bytes

-- What one read of at most `wanted` bytes gets: something, unless the stream has ended.
def receive (wanted : Nat) : Stream → Bytes × Stream
  | [] => ([], [])
  | [] :: rest => receive wanted rest
  | chunk :: rest =>
    if chunk.length ≤ wanted then (chunk, rest) else (chunk.take wanted, chunk.drop wanted :: rest)

def fill (wanted : Nat) (stream : Stream) : Bytes × Stream :=
  if wanted = 0 then ([], stream)
  else
    match receive wanted stream with
    | ([], rest) => ([], rest)
    | (first :: more, rest) =>
      let (later, left) := fill (wanted - (more.length + 1)) rest
      (first :: more ++ later, left)
termination_by wanted
decreasing_by omega

inductive Reading where
  | frame (payload : Bytes) (rest : Stream)
  | finished
  | failed (error : FrameError) (rest : Stream)

-- Reads one frame; of a frame that is too large nothing but the length.
def read (max : Nat) (stream : Stream) : Reading :=
  match fill 4 stream with
  | ([a, b, c, d], rest) =>
    let length := lengthOf a b c d
    if max < length then .failed (.tooLarge length max) rest
    else
      let (payload, left) := fill length rest
      if payload.length = length then .frame payload left else .failed .endInBody left
  | ([], _) => .finished
  | (few, rest) => .failed (.endInLength few.length) rest

inductive Arrived where
  | frame (payload rest : Bytes)
  | tooLarge (length : Nat)
  | unfinished
deriving DecidableEq, Repr

def arrived (max : Nat) : Bytes → Arrived
  | a :: b :: c :: d :: rest =>
    let length := lengthOf a b c d
    if max < length then .tooLarge length
    else if rest.length < length then .unfinished
    else .frame (rest.take length) (rest.drop length)
  | _ => .unfinished

theorem arrived_frame_length {max : Nat} {bytes payload rest : Bytes}
    (taken : arrived max bytes = .frame payload rest) : rest.length < bytes.length := by
  unfold arrived at taken
  split at taken
  · dsimp only at taken
    split at taken
    · cases taken
    split at taken
    · cases taken
    · cases taken
      simp only [List.length_drop, List.length_cons]
      omega
  · cases taken

end Frame

end Bookmarks
