import Bookmarks.Proofs.Outcome
import Bookmarks.Wire.Frame

/-!
Reading frames until none comes. What is read depends on the bytes alone and not on the chunks in which
they come (`read_all_eq`), and it undoes writing.
-/
set_option autoImplicit false

namespace Bookmarks.Frame

variable {max wanted : Nat} {stream : Stream} {bytes more payload rest : Bytes}

theorem receive_spec (positive : 0 < wanted) (stream : Stream) :
    (receive wanted stream).1 ++ (receive wanted stream).2.flatten = stream.flatten ∧
      (receive wanted stream).1.length ≤ wanted ∧
      ((receive wanted stream).1 = [] → stream.flatten = []) := by
  induction stream with
  | nil => simp [receive]
  | cons chunk rest ih =>
      cases chunk with
      | nil => simpa [receive] using ih
      | cons first more =>
          by_cases fits : (first :: more).length ≤ wanted
          · simp only [receive, if_pos fits]
            exact ⟨by simp, fits, by simp⟩
          · simp only [receive, if_neg fits]
            refine ⟨by simp [← List.append_assoc], List.length_take_le _ _, ?_⟩
            intro nothing
            rcases List.take_eq_nil_iff.mp nothing with zero | empty
            · omega
            · cases empty

theorem fill_spec (wanted : Nat) (stream : Stream) :
    (fill wanted stream).1 = stream.flatten.take wanted ∧
      (fill wanted stream).2.flatten = stream.flatten.drop wanted := by
  fun_induction fill wanted stream with
  | case1 stream => simp
  | case2 wanted stream positive rest received =>
      have spec := receive_spec (Nat.pos_of_ne_zero positive) stream
      rw [received] at spec
      have empty := spec.2.2 rfl
      have left : rest.flatten = [] := by simpa [empty] using spec.1
      simp [empty, left]
  | case3 wanted stream positive first more rest received later left filled ih =>
      have spec := receive_spec (Nat.pos_of_ne_zero positive) stream
      rw [received] at spec
      rw [filled] at ih
      obtain ⟨whole, short, _⟩ := spec
      simp only [List.length_cons] at short
      have all : (first :: more).take wanted = first :: more := List.take_of_length_le short
      have none : (first :: more).drop wanted = [] := List.drop_of_length_le short
      rw [← whole, List.take_append, List.drop_append, all, none]
      exact ⟨congrArg (first :: more ++ ·) ih.1, ih.2⟩

theorem fill_eq (whole : stream.flatten = bytes) (wanted : Nat) :
    ∃ left : Stream, fill wanted stream = (bytes.take wanted, left) ∧ left.flatten = bytes.drop wanted := by
  obtain ⟨got, left⟩ := fill_spec wanted stream
  rw [whole] at got left
  exact ⟨(fill wanted stream).2, Prod.ext got rfl, left⟩

-- How reading comes to its end: cleanly between two frames, or with an error, some bytes being unread.
inductive Ending where
  | clean
  | failed (error : FrameError) (unread : Bytes)
deriving DecidableEq, Repr

-- What a reader finds at the head of some bytes that do not begin with a frame.
def endingOf (max : Nat) : Bytes → Ending
  | [] => .clean
  | a :: b :: c :: d :: body =>
    if max < lengthOf a b c d then .failed (.tooLarge (lengthOf a b c d) max) body
    else .failed .endInBody []
  | few => .failed (.endInLength few.length) []

-- The frames that some bytes begin with, and what is behind them.
def split (max : Nat) (bytes : Bytes) : List Bytes × Bytes :=
  match _taken : arrived max bytes with
  | .frame payload rest => (payload :: (split max rest).1, (split max rest).2)
  | _ => ([], bytes)
termination_by bytes.length
decreasing_by all_goals exact arrived_frame_length _taken

theorem split_of_frame (taken : arrived max bytes = .frame payload rest) :
    split max bytes = (payload :: (split max rest).1, (split max rest).2) := by
  rw [split]
  split
  · rename_i same
    rw [taken] at same
    cases same
    rfl
  · rename_i other
    exact absurd taken (other payload rest)

theorem split_of_none (none : ∀ payload rest, arrived max bytes ≠ .frame payload rest) :
    split max bytes = ([], bytes) := by
  rw [split]
  split
  · rename_i taken
    exact absurd taken (none _ _)
  · rfl

inductive Reads (max : Nat) (stream : Stream) : Prop where
  | frame (payload : Bytes) (left : Stream) (read : Frame.read max stream = .frame payload left)
      (taken : arrived max stream.flatten = .frame payload left.flatten)
  | finished (read : Frame.read max stream = .finished) (empty : stream.flatten = [])
  | failed (error : FrameError) (left : Stream) (read : Frame.read max stream = .failed error left)
      (none : ∀ payload rest, arrived max stream.flatten ≠ .frame payload rest)
      (ending : endingOf max stream.flatten = .failed error left.flatten)

-- Fewer bytes than a length takes.
theorem reads_few (whole : stream.flatten = bytes) (some : bytes ≠ []) (few : bytes.length < 4) :
    Reads max stream := by
  obtain ⟨behind, filled, left⟩ := fill_eq whole 4
  rw [List.take_of_length_le (by omega)] at filled
  rw [List.drop_of_length_le (by omega)] at left
  refine .failed (.endInLength bytes.length) behind ?_ ?_ ?_
  · match bytes, some, few with
    | [a], _, _ => simp [Frame.read, filled]
    | [a, b], _, _ => simp [Frame.read, filled]
    | [a, b, c], _, _ => simp [Frame.read, filled]
  · rw [whole]
    match bytes, few with
    | [], _ => simp [arrived]
    | [a], _ => simp [arrived]
    | [a, b], _ => simp [arrived]
    | [a, b, c], _ => simp [arrived]
  · rw [whole, left]
    match bytes, some, few with
    | [a], _, _ => rfl
    | [a, b], _, _ => rfl
    | [a, b, c], _, _ => rfl

theorem reads (max : Nat) (stream : Stream) : Reads max stream := by
  match whole : stream.flatten with
  | [] =>
      obtain ⟨behind, filled, _⟩ := fill_eq whole 4
      exact .finished (by simp [Frame.read, filled]) whole
  | [a] => exact reads_few whole (by simp) (by simp)
  | [a, b] => exact reads_few whole (by simp) (by simp)
  | [a, b, c] => exact reads_few whole (by simp) (by simp)
  | a :: b :: c :: d :: body =>
      obtain ⟨behind, filled, left⟩ := fill_eq whole 4
      change fill 4 stream = ([a, b, c, d], behind) at filled
      change behind.flatten = body at left
      by_cases large : max < lengthOf a b c d
      · refine .failed (.tooLarge (lengthOf a b c d) max) behind ?_ ?_ ?_
        · simp [Frame.read, filled, large]
        · simp [whole, arrived, large]
        · simp [whole, endingOf, large, left]
      · obtain ⟨last, content, unread⟩ := fill_eq left (lengthOf a b c d)
        by_cases short : body.length < lengthOf a b c d
        · rw [List.take_of_length_le (by omega)] at content
          rw [List.drop_of_length_le (by omega)] at unread
          refine .failed .endInBody last ?_ ?_ ?_
          · simp [Frame.read, filled, large, content, Nat.ne_of_lt short]
          · simp [whole, arrived, large, short]
          · simp [whole, endingOf, large, unread]
        · refine .frame (body.take (lengthOf a b c d)) last ?_ ?_
          · simp [Frame.read, filled, large, content, Nat.le_of_not_lt short]
          · simp [whole, arrived, large, short, unread]

-- Reads frames until none comes.
def readAll (max : Nat) (stream : Stream) : List Bytes × Ending :=
  match _taken : read max stream with
  | .frame payload rest => (payload :: (readAll max rest).1, (readAll max rest).2)
  | .finished => ([], .clean)
  | .failed error rest => ([], .failed error rest.flatten)
termination_by stream.flatten.length
decreasing_by
  all_goals
    rcases reads max stream with ⟨_, _, same, taken⟩ | ⟨same, _⟩ | ⟨_, _, same, _, _⟩
    all_goals
      rw [_taken] at same
      cases same
    exact arrived_frame_length taken

-- Where the bytes are cut into chunks makes no difference.
theorem read_all_eq (max : Nat) (stream : Stream) :
    readAll max stream = ((split max stream.flatten).1, endingOf max (split max stream.flatten).2) := by
  fun_induction readAll max stream with
  | case1 stream payload rest read ih =>
      rcases reads max stream with ⟨_, _, same, taken⟩ | ⟨same, _⟩ | ⟨_, _, same, _, _⟩
      all_goals
        rw [read] at same
        cases same
      rw [split_of_frame taken, ih]
  | case2 stream read =>
      rcases reads max stream with ⟨_, _, same, _⟩ | ⟨_, empty⟩ | ⟨_, _, same, _, _⟩
      · rw [read] at same
        cases same
      · rw [empty, split_of_none (by simp [arrived])]
        rfl
      · rw [read] at same
        cases same
  | case3 stream error rest read =>
      rcases reads max stream with ⟨_, _, same, _⟩ | ⟨same, _⟩ | ⟨_, _, same, none, ending⟩
      all_goals
        rw [read] at same
        cases same
      rw [split_of_none none, ending]

theorem length_of_bytes {length : Nat} (small : length ≤ lengthLimit) :
    lengthOf length.toUInt8 (length / 0x100).toUInt8 (length / 0x10000).toUInt8 (length / 0x1000000).toUInt8 =
      length := by
  simp only [lengthLimit] at small
  simp only [lengthOf, Nat.toUInt8, UInt8.toNat_ofNat']
  omega

theorem bytes_of_length (a b c d : UInt8) :
    lengthBytes (lengthOf a b c d) = [a, b, c, d] ∧ lengthOf a b c d ≤ lengthLimit := by
  have belowA := a.toNat_lt
  have belowB := b.toNat_lt
  have belowC := c.toNat_lt
  have belowD := d.toNat_lt
  constructor
  · simp only [lengthBytes, lengthOf, List.cons.injEq, ← UInt8.toNat_inj, Nat.toUInt8, UInt8.toNat_ofNat', and_true]
    omega
  · simp only [lengthOf, lengthLimit]
    omega

theorem write_ok (small : payload.length ≤ lengthLimit) :
    write payload = .ok (lengthBytes payload.length ++ payload) := if_pos small

theorem write_eq_ok {frame : Bytes} (written : write payload = .ok frame) :
    payload.length ≤ lengthLimit ∧ frame = lengthBytes payload.length ++ payload := by
  by_cases small : payload.length ≤ lengthLimit
  · rw [write_ok small] at written
    cases written
    exact ⟨small, rfl⟩
  · rw [write, if_neg small] at written
    cases written

theorem write_eq_error {failure : FrameError} (failed : write payload = .error failure) :
    lengthLimit < payload.length := by
  refine Nat.lt_of_not_le fun small => ?_
  rw [write_ok small] at failed
  cases failed

theorem arrived_of_written {frame : Bytes} (fits : payload.length ≤ max) (written : write payload = .ok frame)
    (rest : Bytes) : arrived max (frame ++ rest) = .frame payload rest := by
  obtain ⟨small, rfl⟩ := write_eq_ok written
  simp [arrived, lengthBytes, length_of_bytes small, Nat.not_lt.mpr fits]

theorem written_of_arrived (taken : arrived max bytes = .frame payload rest) :
    payload.length ≤ max ∧ ∃ frame, write payload = .ok frame ∧ bytes = frame ++ rest := by
  unfold arrived at taken
  split at taken
  · rename_i a b c d body
    obtain ⟨prefixed, small⟩ := bytes_of_length a b c d
    simp only at taken
    split at taken
    · cases taken
    · rename_i fits
      split at taken
      · cases taken
      · rename_i enough
        cases taken
        have full : (body.take (lengthOf a b c d)).length = lengthOf a b c d :=
          List.length_take_of_le (Nat.le_of_not_lt enough)
        refine ⟨by omega, _, write_ok (by omega), ?_⟩
        rw [full, prefixed]
        simp
  · cases taken

theorem arrived_too_large_iff {length : Nat} : arrived max bytes = .tooLarge length ↔
    ∃ a b c d body, bytes = a :: b :: c :: d :: body ∧ lengthOf a b c d = length ∧ max < length := by
  constructor
  · intro large
    unfold arrived at large
    split at large
    · rename_i a b c d body
      simp only at large
      split at large
      · rename_i above
        cases large
        exact ⟨a, b, c, d, body, rfl, rfl, above⟩
      · split at large <;> cases large
    · cases large
  · rintro ⟨a, b, c, d, body, rfl, rfl, above⟩
    simp [arrived, above]

theorem too_large_bounds {length : Nat} (large : arrived max bytes = .tooLarge length) :
    max < length ∧ length ≤ lengthLimit := by
  obtain ⟨a, b, c, d, body, rfl, rfl, above⟩ := arrived_too_large_iff.mp large
  exact ⟨above, (bytes_of_length a b c d).2⟩

theorem too_large_append {length : Nat} (large : arrived max bytes = .tooLarge length) (more : Bytes) :
    arrived max (bytes ++ more) = .tooLarge length := by
  obtain ⟨a, b, c, d, body, rfl, same, above⟩ := arrived_too_large_iff.mp large
  exact arrived_too_large_iff.mpr ⟨a, b, c, d, body ++ more, rfl, same, above⟩

theorem ending_too_large_iff {length : Nat} :
    (∃ unread, endingOf max bytes = .failed (.tooLarge length max) unread) ↔ arrived max bytes = .tooLarge length := by
  rw [arrived_too_large_iff]
  constructor
  · rintro ⟨unread, ending⟩
    unfold endingOf at ending
    split at ending
    · cases ending
    · rename_i a b c d _
      split at ending
      · rename_i large
        cases ending
        exact ⟨a, b, c, d, unread, rfl, rfl, large⟩
      · cases ending
    · cases ending
  · rintro ⟨a, b, c, d, body, rfl, rfl, large⟩
    exact ⟨body, by simp [endingOf, large]⟩

-- The bytes that come of writing some payloads, none of them longer than the maximum.
def Written (max : Nat) (payloads : List Bytes) (bytes : Bytes) : Prop :=
  (∀ payload ∈ payloads, payload.length ≤ max) ∧ ∃ frames, payloads.mapM write = .ok frames ∧ frames.flatten = bytes

theorem written_nil (max : Nat) : Written max [] [] := ⟨by simp, [], rfl, rfl⟩

theorem written_cons {payloads : List Bytes} :
    Written max (payload :: payloads) bytes ↔ payload.length ≤ max ∧
      ∃ frame later, write payload = .ok frame ∧ Written max payloads later ∧ bytes = frame ++ later := by
  constructor
  · rintro ⟨fit, frames, written, rfl⟩
    rw [List.mapM_cons] at written
    obtain ⟨frame, first, rest⟩ := bind_eq_ok.mp written
    obtain ⟨others, later, result⟩ := bind_eq_ok.mp rest
    cases result
    exact ⟨fit payload List.mem_cons_self, frame, others.flatten, first,
      ⟨fun other member => fit other (List.mem_cons_of_mem _ member), others, later, rfl⟩, rfl⟩
  · rintro ⟨fits, frame, later, first, ⟨fit, others, written, rfl⟩, rfl⟩
    refine ⟨List.forall_mem_cons.mpr ⟨fits, fit⟩, frame :: others, ?_, rfl⟩
    rw [List.mapM_cons, bind_of_ok first, bind_of_ok written]
    rfl

theorem written_of_fit {payloads : List Bytes}
    (fit : ∀ payload ∈ payloads, payload.length ≤ max ∧ payload.length ≤ lengthLimit) :
    ∃ bytes, Written max payloads bytes := by
  induction payloads with
  | nil => exact ⟨[], written_nil max⟩
  | cons payload payloads ih =>
      obtain ⟨⟨fits, small⟩, others⟩ := List.forall_mem_cons.mp fit
      obtain ⟨later, written⟩ := ih others
      exact ⟨_, written_cons.mpr ⟨fits, _, later, write_ok small, written, rfl⟩⟩

-- What was written is read again, whatever follows it.
theorem split_of_written {payloads : List Bytes} (written : Written max payloads bytes) (more : Bytes) :
    split max (bytes ++ more) = (payloads ++ (split max more).1, (split max more).2) := by
  induction payloads generalizing bytes with
  | nil =>
      obtain ⟨_, frames, none, rfl⟩ := written
      cases none
      rfl
  | cons payload payloads ih =>
      obtain ⟨fits, frame, later, first, rest, rfl⟩ := written_cons.mp written
      rw [List.append_assoc, split_of_frame (arrived_of_written fits first _), ih rest]
      rfl

theorem read_all_of_written {payloads : List Bytes} (written : Written max payloads bytes) {stream : Stream}
    (whole : stream.flatten = bytes) : readAll max stream = (payloads, .clean) := by
  have all := split_of_written written []
  have nothing : split max [] = ([], []) := split_of_none (by simp [arrived])
  rw [List.append_nil, nothing, List.append_nil] at all
  rw [read_all_eq, whole, all]
  rfl

-- Bytes are the frames that they begin with, and a rest that begins with none.
theorem written_split (max : Nat) (bytes : Bytes) :
    (∃ whole, Written max (split max bytes).1 whole ∧ bytes = whole ++ (split max bytes).2) ∧
      ∀ payload rest, arrived max (split max bytes).2 ≠ .frame payload rest := by
  fun_induction split max bytes with
  | case1 bytes payload rest taken ih =>
      obtain ⟨⟨whole, written, same⟩, none⟩ := ih
      obtain ⟨fits, frame, first, rfl⟩ := written_of_arrived taken
      refine ⟨⟨frame ++ whole, written_cons.mpr ⟨fits, frame, whole, first, written, rfl⟩, ?_⟩, none⟩
      rw [List.append_assoc, ← same]
  | case2 bytes none =>
      exact ⟨⟨[], written_nil max, rfl⟩, fun payload rest taken => none payload rest taken⟩

-- What arrives later goes on from what was left.
theorem split_append (max : Nat) (bytes more : Bytes) :
    split max (bytes ++ more) =
      ((split max bytes).1 ++ (split max ((split max bytes).2 ++ more)).1,
        (split max ((split max bytes).2 ++ more)).2) := by
  obtain ⟨⟨whole, written, same⟩, _⟩ := written_split max bytes
  have further := split_of_written written ((split max bytes).2 ++ more)
  rwa [← List.append_assoc, ← same] at further

theorem ending_clean_iff (max : Nat) (rest : Bytes) : endingOf max rest = .clean ↔ rest = [] := by
  constructor
  · intro clean
    unfold endingOf at clean
    split at clean
    · rfl
    · split at clean <;> cases clean
    · cases clean
  · rintro rfl
    rfl

theorem ending_in_length (some : 0 < rest.length) (few : rest.length < 4) :
    endingOf max rest = .failed (.endInLength rest.length) [] := by
  match rest, some, few with
  | [_], _, _ => rfl
  | [_, _], _, _ => rfl
  | [_, _, _], _, _ => rfl

/-- Reading undoes writing, however the bytes are cut, and the bytes alone decide what is read. The
frames are as many as there are whole ones. Reading ends cleanly if nothing is left, and then the frames
are all that was there. Else it fails: within a length, at a length that is too large, of which nothing
more is read, or within a payload. -/
theorem framing_bijective (max : Nat) :
    (∀ payloads : List Bytes, (∀ payload ∈ payloads, payload.length ≤ max ∧ payload.length ≤ lengthLimit) →
      ∃ bytes, Written max payloads bytes ∧
        ∀ stream : Stream, stream.flatten = bytes → readAll max stream = (payloads, .clean)) ∧
    ∀ stream : Stream, ∃ frames ending bytes rest, readAll max stream = (frames, ending) ∧
      Written max frames bytes ∧ stream.flatten = bytes ++ rest ∧
      (∀ payloads others more, Written max payloads others → stream.flatten = others ++ more → payloads <+: frames) ∧
      (ending = .clean ↔ rest = []) ∧
      (0 < rest.length → rest.length < 4 → ending = .failed (.endInLength rest.length) []) ∧
      (∀ a b c d body, rest = a :: b :: c :: d :: body →
        (max < lengthOf a b c d → ending = .failed (.tooLarge (lengthOf a b c d) max) body) ∧
        (lengthOf a b c d ≤ max → body.length < lengthOf a b c d ∧ ending = .failed .endInBody [])) ∧
      ∀ other : Stream, other.flatten = stream.flatten → readAll max other = (frames, ending) := by
  constructor
  · intro payloads fit
    obtain ⟨bytes, written⟩ := written_of_fit fit
    exact ⟨bytes, written, fun stream whole => read_all_of_written written whole⟩
  · intro stream
    obtain ⟨⟨bytes, written, same⟩, none⟩ := written_split max stream.flatten
    refine ⟨_, _, bytes, _, read_all_eq max stream, written, same, ?_, ending_clean_iff max _, ending_in_length,
      ?_, ?_⟩
    · intro payloads others more begun cut
      rw [cut, split_of_written begun more]
      exact List.prefix_append _ _
    · intro a b c d body left
      rw [left] at none ⊢
      constructor
      · intro large
        simp [endingOf, large]
      · intro fits
        have short : body.length < lengthOf a b c d := by
          refine Nat.lt_of_not_le fun enough => none (body.take (lengthOf a b c d)) (body.drop (lengthOf a b c d)) ?_
          simp [arrived, Nat.not_lt.mpr fits, Nat.not_lt.mpr enough]
        exact ⟨short, by simp [endingOf, Nat.not_lt.mpr fits]⟩
    · intro other whole
      rw [read_all_eq, whole]

-- A payload and an empty one in four chunks, and a length that is too large, cut in two ways.
theorem framing_bijective_chunks :
    readAll 3 [[2, 0, 0], [0, 7], [8, 0, 0], [0, 0]] = ([[7, 8], []], .clean) ∧
    readAll 3 [[9], [0, 0, 0, 1]] = ([], .failed (.tooLarge 9 3) [1]) ∧
    readAll 3 [[9, 0, 0], [0, 1]] = ([], .failed (.tooLarge 9 3) [1]) := by
  constructor
  · obtain ⟨bytes, ⟨_, pieces, written, rfl⟩, reading⟩ := (framing_bijective 3).1 [[7, 8], []] (by decide)
    have same : [[7, 8], []].mapM write = .ok [[2, 0, 0, 0, 7, 8], [0, 0, 0, 0]] := rfl
    rw [same] at written
    cases written
    exact reading _ rfl
  · obtain ⟨frames, ending, _, _, reading, _, _, _, _, _, _, whole⟩ :=
      (framing_bijective 3).2 [[9], [0, 0, 0, 1]]
    have once : readAll 3 [[9], [0, 0, 0, 1]] = ([], .failed (.tooLarge 9 3) [1]) := by decide +kernel
    exact ⟨once, (whole [[9, 0, 0], [0, 1]] rfl).trans (reading.symm.trans once)⟩

end Bookmarks.Frame
