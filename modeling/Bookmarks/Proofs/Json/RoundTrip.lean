import Bookmarks.Json.Decoder
import Bookmarks.Proofs.Json.Tokens
import Bookmarks.Proofs.Keyed
import Bookmarks.Proofs.Outcome
import Bookmarks.Proofs.Text.Utf8

/-!
A value that is written and read again is the same, unless it nests deeper than a reader goes.
-/
set_option autoImplicit false

namespace Bookmarks

namespace Json

-- What a reader goes on to do behind a token.
def Step.resume (rest : List Token) : Step → Document × List Token
  | .more expected stack => Document.read expected stack rest
  | .finished root => (root, rest)
  | .stuck root => (root, [.bad])

variable {stack : List Open} {rest : List Token}

theorem read_cons (expected : Expected) (stack : List Open) (token : Token) (rest : List Token) :
    Document.read expected stack (token :: rest) = (Step.of expected stack token).resume rest := by
  rw [Document.read]
  cases Step.of expected stack token <;> rfl

theorem Value.tokens_cons (value : Value) :
    ∃ token others, value.tokens = token :: others ∧
      ∀ stack, Step.of .itemOrEnd stack token = Step.of .value stack token := by
  cases value with
  | arr items => exact ⟨_, _, by rw [Value.tokens], fun _ => rfl⟩
  | obj members => exact ⟨_, _, by rw [Value.tokens], fun _ => rfl⟩
  | null => exact ⟨_, _, by rw [Value.tokens], fun _ => rfl⟩
  | bool b => exact ⟨_, _, by rw [Value.tokens], fun _ => rfl⟩
  | num n => exact ⟨_, _, by rw [Value.tokens], fun _ => rfl⟩
  | str s => exact ⟨_, _, by rw [Value.tokens], fun _ => rfl⟩

-- Where a bracket may stand, an item is read as it is elsewhere.
theorem read_first_item (item : Value) (more : List Value) (stack : List Open) (rest : List Token) :
    Document.read .itemOrEnd stack (Value.itemTokens (item :: more) ++ rest) =
      Document.read .value stack (Value.itemTokens (item :: more) ++ rest) := by
  obtain ⟨token, others, shape, same⟩ := item.tokens_cons
  have first : ∃ behind, Value.itemTokens (item :: more) = token :: behind := by
    cases more with
    | nil => exact ⟨_, by rw [Value.itemTokens, shape, List.cons_append]⟩
    | cons second more => exact ⟨_, by rw [Value.itemTokens, shape, List.cons_append]; simp⟩
  obtain ⟨behind, begins⟩ := first
  rw [begins, List.cons_append, read_cons, read_cons, same]

theorem read_first_name (member : String × Value) (more : List (String × Value)) (stack : List Open)
    (rest : List Token) :
    Document.read .nameOrEnd stack (Value.memberTokens (member :: more) ++ rest) =
      Document.read .name stack (Value.memberTokens (member :: more) ++ rest) := by
  have first : ∃ behind, Value.memberTokens (member :: more) = .str (some member.1) :: behind := by
    cases more with
    | nil => exact ⟨_, by rw [Value.memberTokens, List.cons_append]⟩
    | cons second more => exact ⟨_, by rw [Value.memberTokens, List.cons_append]; simp⟩
  obtain ⟨behind, begins⟩ := first
  rw [begins, List.cons_append, read_cons, read_cons]
  rfl

mutual

theorem Value.read_tokens (value : Value) (stack : List Open) (rest : List Token) :
    Document.read .value stack (value.tokens ++ rest) = (Step.finish value.document stack).resume rest := by
  match value with
  | .null => exact read_cons ..
  | .bool b => exact read_cons ..
  | .num n => exact read_cons ..
  | .str s => exact read_cons ..
  | .arr [] =>
      show Document.read .value stack (.openArray :: .closeArray :: rest) = _
      rw [read_cons]
      exact read_cons .itemOrEnd (.items [] :: stack) .closeArray rest
  | .arr (item :: more) =>
      have inside := Value.read_items (item :: more) (List.cons_ne_nil item more) [] stack rest
      rw [Value.tokens, List.cons_append, read_cons]
      exact (read_first_item item more (.items [] :: stack) rest).trans inside
  | .obj [] =>
      show Document.read .value stack (.openObject :: .closeObject :: rest) = _
      rw [read_cons]
      exact read_cons .nameOrEnd (.members [] :: stack) .closeObject rest
  | .obj (member :: more) =>
      have inside := Value.read_members (member :: more) (List.cons_ne_nil member more) [] stack rest
      rw [Value.tokens, List.cons_append, read_cons]
      exact (read_first_name member more (.members [] :: stack) rest).trans inside

theorem Value.read_items (items : List Value) (some : items ≠ []) (done : List Document) (stack : List Open)
    (rest : List Token) :
    Document.read .value (.items done :: stack) (Value.itemTokens items ++ rest) =
      (Step.finish (.arr (done.reverse ++ Value.documents items) .closed) stack).resume rest := by
  match items with
  | [] => exact absurd rfl some
  | [last] =>
      have here := Value.read_tokens last (.items done :: stack) (.closeArray :: rest)
      have closing := read_cons .next (.items (last.document :: done) :: stack) .closeArray rest
      rw [Value.itemTokens, List.append_assoc, List.singleton_append, here]
      refine closing.trans ?_
      show (Step.finish (.arr (last.document :: done).reverse .closed) stack).resume rest = _
      rw [List.reverse_cons]
      rfl
  | item :: second :: more =>
      have later := Value.read_items (second :: more) (List.cons_ne_nil second more) (item.document :: done) stack rest
      have here := Value.read_tokens item (.items done :: stack) (.comma :: (Value.itemTokens (second :: more) ++ rest))
      have goesOn := read_cons .next (.items (item.document :: done) :: stack) .comma
        (Value.itemTokens (second :: more) ++ rest)
      have shape : Value.itemTokens (item :: second :: more) ++ rest =
          item.tokens ++ .comma :: (Value.itemTokens (second :: more) ++ rest) := by simp [Value.itemTokens]
      rw [List.reverse_cons, List.append_assoc] at later
      rw [shape, here]
      exact goesOn.trans later

theorem Value.read_members (members : List (String × Value)) (some : members ≠ [])
    (done : List (Option String × Document)) (stack : List Open) (rest : List Token) :
    Document.read .name (.members done :: stack) (Value.memberTokens members ++ rest) =
      (Step.finish (.obj (done.reverse ++ Value.memberDocuments members) .closed) stack).resume rest := by
  match members with
  | [] => exact absurd rfl some
  | [last] =>
      have here := Value.read_tokens last.2 (.member done last.1 :: stack) (.closeObject :: rest)
      have closing := read_cons .next (.members ((.some last.1, last.2.document) :: done) :: stack) .closeObject rest
      have shape : Value.memberTokens [last] ++ rest =
          .str (.some last.1) :: .colon :: (last.2.tokens ++ .closeObject :: rest) := by simp [Value.memberTokens]
      rw [shape, read_cons]
      show Document.read .colon (.member done last.1 :: stack) (.colon :: _) = _
      rw [read_cons]
      refine here.trans (closing.trans ?_)
      show (Step.finish (.obj ((.some last.1, last.2.document) :: done).reverse .closed) stack).resume rest = _
      rw [List.reverse_cons]
      rfl
  | member :: second :: more =>
      have later := Value.read_members (second :: more) (List.cons_ne_nil second more)
        ((.some member.1, member.2.document) :: done) stack rest
      have here := Value.read_tokens member.2 (.member done member.1 :: stack)
        (.comma :: (Value.memberTokens (second :: more) ++ rest))
      have goesOn := read_cons .next (.members ((.some member.1, member.2.document) :: done) :: stack) .comma
        (Value.memberTokens (second :: more) ++ rest)
      have shape : Value.memberTokens (member :: second :: more) ++ rest = .str (.some member.1) :: .colon ::
          (member.2.tokens ++ .comma :: (Value.memberTokens (second :: more) ++ rest)) := by
        simp [Value.memberTokens]
      rw [List.reverse_cons, List.append_assoc] at later
      rw [shape, read_cons]
      show Document.read .colon (.member done member.1 :: stack) (.colon :: _) = _
      rw [read_cons]
      exact here.trans (goesOn.trans later)

end

-- What comes of the text of a value is its document, and nothing is left.
theorem source_of_compact {value : Value} (readable : value.Readable) :
    Source.ofBytes (Text.bytes value.compact) = ⟨value.document, true⟩ := by
  have tokens := value.of_glyphs_compact readable [] rfl
  have read := value.read_tokens [] []
  rw [List.append_nil] at tokens read
  rw [Source.ofBytes, Text.glyphs_bytes, tokens, Token.ofGlyphs, List.append_nil, Source.ofTokens, read]
  rfl

theorem of_source_compact {α : Type} (decode : Decoder α) {value : Value} (readable : value.Readable) :
    decode.ofSource (Source.ofBytes (Text.bytes value.compact)) = decode .ofText value.document := by
  rw [source_of_compact readable, Decoder.ofSource]
  cases decode .ofText value.document <;> rfl

mutual

-- How many lists and objects are open at most.
def Value.depth : Value → Nat
  | .arr items => Value.itemsDepth items + 1
  | .obj members => Value.membersDepth members + 1
  | _ => 0

def Value.itemsDepth : List Value → Nat
  | [] => 0
  | item :: rest => max item.depth (Value.itemsDepth rest)

def Value.membersDepth : List (String × Value) → Nat
  | [] => 0
  | member :: rest => max member.2.depth (Value.membersDepth rest)

end

mutual

-- The members of every object stand in ascending order.
def Value.Sorted : Value → Prop
  | .arr items => Value.ItemsSorted items
  | .obj members => (members.Pairwise fun a b => a.1 < b.1) ∧ Value.MembersSorted members
  | _ => True

def Value.ItemsSorted : List Value → Prop
  | [] => True
  | item :: rest => item.Sorted ∧ Value.ItemsSorted rest

def Value.MembersSorted : List (String × Value) → Prop
  | [] => True
  | member :: rest => member.2.Sorted ∧ Value.MembersSorted rest

end

theorem enter_text {room depth : Nat} (shallow : depth + 1 < room) :
    ∃ inner, Form.enter (.text room) = .ok (.text inner) ∧ depth < inner := by
  match room, shallow with
  | room + 2, shallow => exact ⟨room + 1, rfl, by omega⟩

theorem of_members_ascending {members : List (String × Value)} (ascending : members.Pairwise fun a b => a.1 < b.1) :
    Value.ofMembers members = .obj members :=
  congrArg (fun table : Keyed Value => Value.obj table.entries) (Keyed.of_list_entries ⟨members, ascending⟩)

mutual

theorem Value.decode_document (value : Value) (sorted : value.Sorted) {room : Nat} (shallow : value.depth < room) :
    Decoder.value (.text room) value.document = .ok value := by
  match value, sorted with
  | .null, _ => rfl
  | .bool b, _ => rfl
  | .num n, _ => rfl
  | .str s, _ => rfl
  | .arr items, sorted =>
      obtain ⟨inner, entered, within⟩ := enter_text shallow
      have inside := Value.decode_items items sorted within
      rw [Value.document, Decoder.value, bind_of_ok entered, bind_of_ok inside]
      rfl
  | .obj members, sorted =>
      obtain ⟨inner, entered, within⟩ := enter_text shallow
      have inside := Value.decode_members members sorted.2 within
      rw [Value.document, Decoder.value, bind_of_ok entered, bind_of_ok inside, of_members_ascending sorted.1]
      rfl

theorem Value.decode_items (items : List Value) (sorted : Value.ItemsSorted items) {room : Nat}
    (shallow : Value.itemsDepth items < room) :
    Decoder.values (.text room) (Value.documents items) = .ok items := by
  match items, sorted with
  | [], _ => rfl
  | item :: rest, sorted =>
      obtain ⟨here, later⟩ := Nat.max_lt.mp shallow
      rw [Value.documents, Decoder.values, bind_of_ok (Value.decode_document item sorted.1 here),
        bind_of_ok (Value.decode_items rest sorted.2 later)]
      rfl

theorem Value.decode_members (members : List (String × Value)) (sorted : Value.MembersSorted members) {room : Nat}
    (shallow : Value.membersDepth members < room) :
    Decoder.memberValues (.text room) (Value.memberDocuments members) = .ok members := by
  match members, sorted with
  | [], _ => rfl
  | member :: rest, sorted =>
      obtain ⟨here, later⟩ := Nat.max_lt.mp shallow
      rw [Value.memberDocuments, Decoder.memberValues, bind_of_ok (Value.decode_document member.2 sorted.1 here),
        bind_of_ok (Value.decode_members rest sorted.2 later)]
      rfl

end

end Json

end Bookmarks
