import Bookmarks.Proofs.Text.Trimming
import Bookmarks.Url.WebAddress

/-!
What an address on the web looks like. A text that is taken for one begins with one of the two schemes and goes on with
a host, once tabs and line ends are taken out and it is trimmed; and it is judged as what is left of it is
(`accepted_address`).
-/
set_option autoImplicit false

namespace Bookmarks.Url

variable {text rest host : List Char}

-- The text without tabs and line ends, and then without control characters and blanks around it.
def stripped (text : List Char) : List Char :=
  Text.trimBoth isTrimmed (text.filter fun c => !isSkipped c)

theorem skipped_trimmed (c : Char) (skipped : (!isSkipped c) = false) : isTrimmed c = true := by
  rw [Bool.not_eq_false', isSkipped, Bool.or_eq_true, Bool.or_eq_true, decide_eq_true_iff, decide_eq_true_iff,
    decide_eq_true_iff] at skipped
  rcases skipped with (rfl | rfl) | rfl <;> decide

theorem stripped_eq_cleaned (text : List Char) : stripped text = cleaned text :=
  Text.trim_both_filter text skipped_trimmed

theorem cleaned_stripped (text : List Char) : cleaned (stripped text) = cleaned text := by
  rw [cleaned, stripped, Text.trim_both_idempotent, Text.trim_both_filter text skipped_trimmed, List.filter_filter]
  simp only [Bool.and_self]
  rfl

theorem mem_of_cleaned {c : Char} (member : c ∈ cleaned text) : c ∈ text :=
  (Text.trim_both_sublist isTrimmed text).subset (List.mem_filter.mp member).1

/-- The parts of a written address, in their order. A colon follows the scheme. -/
structure Address where
  scheme : List Char
  slashes : List Char
  user : List Char
  host : List Char
  port : List Char
  behind : List Char

-- A host that stands for something: an address in brackets, or a name of which something is left when it has been
-- decoded and prepared for lookup.
def IsNamed (host : List Char) : Prop :=
  (∃ address, host = '[' :: (address ++ [']']) ∧ Ipv6.isAddress address = true) ∨
    ∃ name whole, Text.ofBytes? (percentDecoded (Text.bytes (String.ofList host))) = some name ∧
      prepared? name = some whole ∧ whole ≠ []

/-- The text is the address as it is written: one of the two schemes in upper or lower case, slashes either way, what
stands before the last `@` of the authority, the host, a port, and what the authority ends with. -/
structure Address.Writes (address : Address) (text : List Char) : Prop where
  whole : text = address.scheme ++ ':' ::
    (address.slashes ++ (address.user ++ (address.host ++ address.port)) ++ address.behind)
  scheme : address.scheme.map Char.toLower ∈ schemes
  slashes : ∀ c ∈ address.slashes, isSlash c = true
  user : address.user = [] ∨ address.user.getLast? = some '@'
  port : address.port = [] ∨ address.port.head? = some ':'
  authority : ∀ c ∈ address.user ++ (address.host ++ address.port), endsAuthority c = false
  userEnds : '@' ∉ address.host ++ address.port
  behind : address.behind = [] ∨ ∃ c, address.behind.head? = some c ∧ endsAuthority c = true
  written : address.host ≠ []
  named : IsNamed address.host

theorem head_of_drop_while {drop : Char → Bool} {c : Char} (behind : text.dropWhile drop = c :: rest) :
    drop c = false := by
  have nonempty : text.dropWhile drop ≠ [] := by simp [behind]
  have solid := List.head_dropWhile_not drop nonempty
  simpa only [behind, List.head_cons] using solid

theorem after_scheme_some (found : afterScheme? text = some rest) :
    ∃ scheme, text = scheme ++ ':' :: rest ∧ scheme.map Char.toLower ∈ schemes := by
  unfold afterScheme? at found
  split at found
  · cases found
  · rename_i c later behind
    split at found
    · rename_i known
      cases found
      have colon : c = ':' := by simpa using head_of_drop_while behind
      subst colon
      refine ⟨_, ?_, known⟩
      rw [← behind, List.takeWhile_append_dropWhile]
    · cases found

theorem host_of_spec (inBrackets : Bool) (place : List Char) : ∃ port, place = hostOf inBrackets place ++ port ∧
    (port = [] ∨ port.head? = some ':') := by
  induction place generalizing inBrackets with
  | nil => exact ⟨[], rfl, Or.inl rfl⟩
  | cons c rest ih =>
      unfold hostOf
      split
      · rename_i colon
        have same : c = ':' := by simpa using (Bool.and_eq_true_iff.mp colon).1
        exact ⟨c :: rest, rfl, Or.inr (by rw [same]; rfl)⟩
      · obtain ⟨port, whole, head⟩ := ih (if c = '[' then true else if c = ']' then false else inBrackets)
        exact ⟨port, by rw [List.cons_append, ← whole], head⟩

theorem without_user_spec (place : List Char) : ∃ user, place = user ++ withoutUser place ∧
    (user = [] ∨ user.getLast? = some '@') ∧ '@' ∉ withoutUser place := by
  refine ⟨(place.reverse.dropWhile (· != '@')).reverse, ?_, ?_, ?_⟩
  · rw [withoutUser, ← List.reverse_append, List.takeWhile_append_dropWhile, List.reverse_reverse]
  · cases behind : place.reverse.dropWhile (· != '@') with
    | nil => exact Or.inl rfl
    | cons c rest =>
        have mark : c = '@' := by simpa using head_of_drop_while behind
        exact Or.inr (by rw [List.getLast?_reverse, mark]; rfl)
  · intro member
    simpa using List.mem_takeWhile_imp (List.mem_reverse.mp member)

theorem authority_spec (rest : List Char) : ∃ slashes behind, rest = slashes ++ authority rest ++ behind ∧
    (∀ c ∈ slashes, isSlash c = true) ∧ (∀ c ∈ authority rest, endsAuthority c = false) ∧
    (behind = [] ∨ ∃ c, behind.head? = some c ∧ endsAuthority c = true) := by
  refine ⟨rest.takeWhile isSlash, (rest.dropWhile isSlash).dropWhile fun c => !endsAuthority c, ?_, ?_, ?_, ?_⟩
  · rw [authority, List.append_assoc, List.takeWhile_append_dropWhile, List.takeWhile_append_dropWhile]
  · intro c member
    exact List.mem_takeWhile_imp member
  · intro c member
    simpa using List.mem_takeWhile_imp member
  · cases beyond : (rest.dropWhile isSlash).dropWhile fun c => !endsAuthority c with
    | nil => exact Or.inl rfl
    | cons c later => exact Or.inr ⟨c, rfl, by simpa using head_of_drop_while beyond⟩

theorem prepared_of_labels {name : List Char} {labels : List (List Char)} (found : labels? name = some labels) :
    ∃ whole, prepared? name = some whole ∧ labels = whole.splitOn '.' := by
  obtain ⟨whole, ready, later⟩ := Option.bind_eq_some_iff.mp found
  obtain ⟨texts, _, result⟩ := Option.bind_eq_some_iff.mp later
  refine ⟨whole, ready, ?_⟩
  simp only at result
  split at result
  · cases result
  · exact (Option.some.inj result).symm

theorem named_of_host (host : List Char) (accepted : isHost host = true) : host ≠ [] ∧ IsNamed host := by
  unfold isHost at accepted
  split at accepted
  · cases accepted
  · rename_i rest
    rw [Bool.and_eq_true, beq_iff_eq] at accepted
    refine ⟨List.cons_ne_nil _ _, Or.inl ⟨rest.dropLast, ?_, accepted.2⟩⟩
    rw [List.dropLast_append_getLast? _ accepted.1]
  · rename_i written _
    refine ⟨written, Or.inr ?_⟩
    unfold isName at accepted
    split at accepted
    · cases accepted
    · rename_i name decoded
      split at accepted
      · cases accepted
      · rename_i labels found
        obtain ⟨whole, ready, rfl⟩ := prepared_of_labels found
        refine ⟨name, whole, decoded, ready, ?_⟩
        rintro rfl
        cases accepted

theorem written_of_host (found : host? text = some host) : ∃ address :
    Address, address.Writes text ∧ address.host = host := by
  obtain ⟨rest, schemed, placed⟩ := Option.bind_eq_some_iff.mp found
  obtain ⟨scheme, whole, known⟩ := after_scheme_some schemed
  obtain ⟨slashes, behind, follows, slashed, inside, ends⟩ := authority_spec rest
  obtain ⟨user, before, marked, unmarked⟩ := without_user_spec (authority rest)
  obtain ⟨port, place, colon⟩ := host_of_spec false (withoutUser (authority rest))
  simp only at placed
  split at placed
  · rename_i accepted
    cases placed
    obtain ⟨written, named⟩ := named_of_host _ (Bool.and_eq_true_iff.mp accepted).1
    refine ⟨⟨scheme, slashes, user, hostOf false (withoutUser (authority rest)), port, behind⟩, ?_, rfl⟩
    have parts : authority rest = user ++ (hostOf false (withoutUser (authority rest)) ++ port) := by rw [← place, ← before]
    exact { whole := by rw [← parts, ← follows]; exact whole
            scheme := known, slashes := slashed, user := marked, port := colon
            authority := by rw [← parts]; exact inside
            userEnds := by rw [← place]; exact unmarked
            behind := ends, written := written, named := named }
  · cases placed

-- The first letter of a scheme is not blank.
theorem solid_of_host (found : host? text = some host) : ∃ c ∈ text, Text.isBlank c = false := by
  obtain ⟨address, writes, _⟩ := written_of_host found
  have known := writes.scheme
  cases spelled : address.scheme with
  | nil =>
      rw [spelled] at known
      exact absurd known (by decide)
  | cons c later =>
      have member : c ∈ text := by rw [writes.whole, spelled]; exact List.mem_append_left _ List.mem_cons_self
      refine ⟨c, member, ?_⟩
      have letter : c.toLower = 'h' := by
        rw [spelled, List.map_cons, schemes, List.mem_cons, List.mem_singleton] at known
        rcases known with same | same <;> exact (List.cons.inj same).1
      unfold Char.toLower at letter
      split at letter
      · rename_i upper
        have low : 65 ≤ c.toNat := upper.1
        have high : c.toNat ≤ 90 := upper.2
        simp only [Text.isBlank, Bool.or_eq_false_iff, Bool.and_eq_false_iff, decide_eq_false_iff_not, beq_eq_false_iff_ne]
        omega
      · rw [letter]
        rfl

/-- A text that is taken for an address is one when it has been stripped: it begins with one of the two schemes and a
colon, and names a host. Stripping does not change the verdict. -/
theorem accepted_address (text : String) :
    (isWebAddress text = true → ∃ address : Address, address.Writes (stripped text.toList)) ∧
      isWebAddress (String.ofList (stripped text.toList)) = isWebAddress text := by
  constructor
  · intro accepted
    obtain ⟨_, found⟩ := Bool.and_eq_true_iff.mp accepted
    obtain ⟨host, found⟩ := Option.isSome_iff_exists.mp found
    obtain ⟨address, writes, _⟩ := written_of_host found
    rw [stripped_eq_cleaned]
    exact ⟨address, writes⟩
  · unfold isWebAddress
    rw [String.toList_ofList, cleaned_stripped]
    cases found : host? (cleaned text.toList) with
    | none => simp
    | some host =>
        obtain ⟨c, member, solid⟩ := solid_of_host found
        have solidText : Text.isAllBlank text = false :=
          List.all_eq_false.mpr ⟨c, mem_of_cleaned member, by simp [solid]⟩
        have solidRest : Text.isAllBlank (String.ofList (stripped text.toList)) = false := by
          rw [Text.isAllBlank, String.toList_ofList, stripped_eq_cleaned]
          exact List.all_eq_false.mpr ⟨c, member, by simp [solid]⟩
        rw [solidText, solidRest]

-- A scheme with a line end in it, two backslashes, a user and a port.
theorem accepted_address_disguised :
    isWebAddress "\t hT\nTp:\\\\me@[::1]:80/ " = true ∧
      ∃ address : Address, address.Writes (stripped "\t hT\nTp:\\\\me@[::1]:80/ ".toList) := by
  have accepted : isWebAddress "\t hT\nTp:\\\\me@[::1]:80/ " = true := by decide +kernel
  exact ⟨accepted, (accepted_address _).1 accepted⟩

end Bookmarks.Url
