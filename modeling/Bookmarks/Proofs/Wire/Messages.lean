import Bookmarks.Proofs.Json.Fields
import Bookmarks.Proofs.Json.RoundTrip
import Bookmarks.Wire.Message

/-!
Requests and responses that are written and read again. Of what is optional, null is read as nothing; a fault
keeps its details, also where there are none of them.
-/
set_option autoImplicit false

namespace Bookmarks

namespace Json

variable {room : Nat}

theorem option_decode {value : Value} (sorted : value.Sorted) (shallow : value.depth < room) :
    Decoder.option Decoder.value (.text room) value.document = .ok ((some value).filter (!·.isNull)) := by
  have plain := value.decode_document sorted shallow
  cases value with
  | null => rfl
  | _ => exact congrArg (Except.map some) plain

theorem entries_eq (form : Form) (members : List (Option String × Document)) :
    Decoder.entries Decoder.value form members = Decoder.memberValues form members := by
  induction members with
  | nil => rfl
  | cons head rest ih =>
      obtain ⟨name, document⟩ := head
      cases name with
      | none => rfl
      | some name => simp only [Decoder.entries, Decoder.memberValues, ih]

theorem of_keyed_eq (table : Keyed Value) : Value.ofKeyed id table = .obj table.entries := by
  simp [Value.ofKeyed]

theorem keyed_decode {table : Keyed Value} (sorted : (Value.ofKeyed id table).Sorted)
    (shallow : (Value.ofKeyed id table).depth < room) :
    Decoder.keyed Decoder.value (.text room) (Value.ofKeyed id table).document = .ok table := by
  rw [of_keyed_eq] at sorted shallow ⊢
  obtain ⟨inner, entered, within⟩ := enter_text shallow
  have members := Value.decode_members table.entries sorted.2 within
  rw [← entries_eq] at members
  rw [Value.document, Decoder.keyed, bind_of_ok entered, bind_of_ok members, Keyed.of_list_entries]
  rfl

end Json

open Json (Value Decoder Record Form)

variable {room : Nat}

-- A value that comes back as it was written from a reader with so much room.
structure Json.Value.Legible (room : Nat) (value : Value) : Prop where
  exact : value.Exact
  sorted : value.Sorted
  shallow : value.depth < room

def Fault.Legible (room : Nat) (fault : Fault) : Prop :=
  ∀ table, fault.details = some table → (Value.ofKeyed id table).Legible room

-- What is left of parameters on their way: null and nothing are the same.
def Request.given (params : Option Value) : Option Value := params.filter (!·.isNull)

open Json.Record.Lawful in
theorem Request.lawful : Request.record.Lawful Eq :=
  (((plain _ _ _ _).map _).seq (plain _ _ _ _)).seq (plain _ _ _ _)

theorem Request.decode_value (id method : String) {params : Option Value}
    (legible : ∀ value, params = some value → value.Legible (room + 1)) :
    Request.decoder (.text (room + 2)) (Request.mk (some (.str id)) method params).value.document =
      .ok ⟨some (.str id), method, given params⟩ := by
  have named : Decoder.option Decoder.value (.text (room + 1)) (.str (some id)) = .ok (some (.str id)) := rfl
  have typed : Decoder.text (.text (room + 1)) (.str (some method)) = .ok method := rfl
  cases params with
  | none =>
      refine Record.decode_written lawful "struct Request" ?once rfl ?read
      case once =>
        show ["id", "type"].Nodup
        decide
      case read =>
        exact Record.assemble_seq (Record.assemble_seq (Record.assemble_map _ (Record.assemble_field rfl named))
          (Record.assemble_field rfl typed)) (Record.assemble_absent rfl)
  | some value =>
      obtain ⟨_, sorted, shallow⟩ := legible value rfl
      have decoded := Json.option_decode sorted shallow
      refine Record.decode_written lawful "struct Request" ?once rfl ?read
      case once =>
        show ["id", "type", "params"].Nodup
        decide
      case read =>
        exact Record.assemble_seq (Record.assemble_seq (Record.assemble_map _ (Record.assemble_field rfl named))
          (Record.assemble_field rfl typed)) (Record.assemble_field rfl decoded)

theorem FaultCode.decode_name (code : FaultCode) (form : Form) :
    FaultCode.decoder form (.str (some code.name)) = .ok code := by
  cases code <;> rfl

open Json.Record.Lawful in
theorem Fault.lawful : Fault.record.Lawful Eq :=
  (((plain _ _ _ _).map _).seq (plain _ _ _ _)).seq (plain _ _ _ _)

-- Whether details are given, and which, is not lost.
theorem Fault.decode_value {fault : Fault} (legible : fault.Legible (room + 1)) :
    Fault.decoder (.text (room + 2)) fault.value.document = .ok fault := by
  obtain ⟨code, message, details⟩ := fault
  have coded := code.decode_name (.text (room + 1))
  have told : Decoder.text (.text (room + 1)) (.str (some message)) = .ok message := rfl
  cases details with
  | none =>
      refine Record.decode_written lawful "struct RpcError" ?once rfl ?read
      case once =>
        show ["code", "message"].Nodup
        decide
      case read =>
        exact Record.assemble_seq (Record.assemble_seq (Record.assemble_map _ (Record.assemble_field rfl coded))
          (Record.assemble_field rfl told)) (Record.assemble_absent rfl)
  | some table =>
      obtain ⟨_, sorted, shallow⟩ := legible table rfl
      have keyed := Json.keyed_decode sorted shallow
      have decoded : Decoder.option (Decoder.keyed Decoder.value) (.text (room + 1)) (Value.ofKeyed id table).document =
          .ok (some table) := congrArg (Except.map some) keyed
      refine Record.decode_written lawful "struct RpcError" ?once rfl ?read
      case once =>
        show ["code", "message", "details"].Nodup
        decide
      case read =>
        exact Record.assemble_seq (Record.assemble_seq (Record.assemble_map _ (Record.assemble_field rfl coded))
          (Record.assemble_field rfl told)) (Record.assemble_field rfl decoded)

namespace Response

variable (number trace : String)

open Json.Record.Lawful in
theorem lawful : record.Lawful Eq :=
  (((((plain _ _ _ _).map _).seq (plain _ _ _ _)).seq (plain _ _ _ _)).seq (plain _ _ _ _)).seq (plain _ _ _ _)

theorem decode_success {result : Value} (legible : result.Legible (room + 1)) :
    decoder (.text (room + 2)) (success (some (.str number)) trace result).value.document =
      .ok ⟨some (.str number), true, Request.given (some result), none, trace⟩ := by
  have named : Decoder.option Decoder.value (.text (room + 1)) (.str (some number)) = .ok (some (.str number)) := rfl
  have flagged : Decoder.flag (.text (room + 1)) (.bool true) = .ok true := rfl
  have traced : Decoder.text (.text (room + 1)) (.str (some trace)) = .ok trace := rfl
  have decoded := Json.option_decode legible.sorted legible.shallow
  refine Record.decode_written lawful "struct Response" ?once rfl ?read
  case once =>
    show ["id", "ok", "result", "traceId"].Nodup
    decide
  case read =>
    exact Record.assemble_seq (Record.assemble_seq (Record.assemble_seq (Record.assemble_seq
      (Record.assemble_map _ (Record.assemble_field rfl named)) (Record.assemble_field rfl flagged))
      (Record.assemble_field rfl decoded)) (Record.assemble_absent rfl))
      (Record.assemble_field rfl traced)

theorem decode_failure {fault : Fault} (legible : fault.Legible (room + 1)) :
    decoder (.text (room + 3)) (failure (some (.str number)) trace fault).value.document =
      .ok ⟨some (.str number), false, none, some fault, trace⟩ := by
  have named : Decoder.option Decoder.value (.text (room + 2)) (.str (some number)) = .ok (some (.str number)) := rfl
  have flagged : Decoder.flag (.text (room + 2)) (.bool false) = .ok false := rfl
  have traced : Decoder.text (.text (room + 2)) (.str (some trace)) = .ok trace := rfl
  have decoded : Decoder.option Fault.decoder (.text (room + 2)) fault.value.document = .ok (some fault) :=
    congrArg (Except.map some) (Fault.decode_value legible)
  refine Record.decode_written lawful "struct Response" ?once rfl ?read
  case once =>
    show ["id", "ok", "error", "traceId"].Nodup
    decide
  case read =>
    exact Record.assemble_seq (Record.assemble_seq (Record.assemble_seq (Record.assemble_seq
      (Record.assemble_map _ (Record.assemble_field rfl named)) (Record.assemble_field rfl flagged))
      (Record.assemble_absent rfl)) (Record.assemble_field rfl decoded))
      (Record.assemble_field rfl traced)

end Response

-- Lists and objects nest 127 deep at most; parameters and results stand in an object, details in two.
def Legible : Except Fault Value → Prop
  | .ok result => result.Legible 127
  | .error fault => fault.Legible 126

def Response.reporting (id : Option Value) (trace : String) : Except Fault Value → Response
  | .ok result => success id trace result
  | .error fault => failure id trace fault

theorem Request.exact (id method : String) {params : Option Value}
    (legible : ∀ value, params = some value → value.Legible 127) :
    (Request.mk (some (.str id)) method params).value.Exact := by
  cases params with
  | none => exact ⟨trivial, trivial, trivial⟩
  | some value => exact ⟨trivial, trivial, (legible value rfl).exact, trivial⟩

theorem Fault.exact {fault : Fault} (legible : fault.Legible 126) : fault.value.Exact := by
  obtain ⟨code, message, details⟩ := fault
  cases details with
  | none => exact ⟨trivial, trivial, trivial⟩
  | some table => exact ⟨trivial, trivial, (legible table rfl).exact, trivial⟩

theorem Response.exact (number trace : String) {outcome : Except Fault Value} (legible : Legible outcome) :
    (reporting (some (.str number)) trace outcome).value.Exact := by
  cases outcome with
  | ok result => exact ⟨trivial, trivial, legible.exact, trivial, trivial⟩
  | error fault => exact ⟨trivial, trivial, Fault.exact legible, trivial, trivial⟩

-- What is read of a request that was written.
theorem Request.read_written (id method : String) {params : Option Value}
    (legible : ∀ value, params = some value → value.Legible 127) :
    Decoder.ofSource Request.decoder (Json.Source.ofBytes
      (Text.bytes (Request.mk (some (.str id)) method params).value.compact)) =
      .ok ⟨some (.str id), method, given params⟩ := by
  rw [Json.of_source_compact _ (Request.exact id method legible).readable]
  exact Request.decode_value id method legible

-- What is read of a response that was written, and what it is taken for.
theorem Response.read_written (number trace : String) {outcome : Except Fault Value} (legible : Legible outcome) :
    ∃ response, Decoder.ofSource Response.decoder (Json.Source.ofBytes
        (Text.bytes (reporting (some (.str number)) trace outcome).value.compact)) = .ok response ∧
      response.id = some (.str number) ∧ response.outcome = outcome ∧ response.traceId = trace := by
  rw [Json.of_source_compact _ (Response.exact number trace legible).readable]
  cases outcome with
  | ok result =>
      refine ⟨_, decode_success number trace legible, rfl, ?_, rfl⟩
      cases result <;> rfl
  | error fault => exact ⟨_, decode_failure number trace legible, rfl, rfl, rfl⟩

end Bookmarks
