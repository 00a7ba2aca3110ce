import Bookmarks.Proofs.Json.Records
import Bookmarks.Server.Methods

/-!
The id of a request. It is found in a frame that is no request as it is in one that is.
-/
set_option autoImplicit false

namespace Bookmarks

open Bookmarks.Json (Value Decoder Record Source Document)

-- The id that a response to these members of an object has to carry.
def idAmong (members : List (String × Value)) : Option Value :=
  ((Value.obj members).member? "id").filter (!·.isNull)

namespace Request

variable {request : Request} {source : Source} {members : List (String × Value)}

theorem assemble_id {form : Json.Form} {slots : Json.Slots} (read : record.assemble form slots = .ok request) :
    (Record.optional "id" Decoder.value).assemble form slots = .ok request.id := by
  obtain ⟨withMethod, first, later⟩ := bind_eq_ok.mp read
  obtain ⟨params, _, result⟩ := bind_eq_ok.mp later
  obtain ⟨withId, start, further⟩ := bind_eq_ok.mp first
  obtain ⟨method, _, made⟩ := bind_eq_ok.mp further
  cases result
  cases made
  change ((Record.optional "id" Decoder.value).assemble form slots).map Request.mk = .ok withId at start
  cases given : (Record.optional "id" Decoder.value).assemble form slots with
  | error problem =>
      rw [given] at start
      cases start
  | ok id =>
      rw [given] at start
      cases start
      rfl

-- A request that is an object carries the id that is found in it when it is read as a value.
theorem id_of_object (read : Decoder.ofSource decoder source = .ok request)
    (whole : Decoder.ofSource Decoder.value source = .ok (.obj members)) : request.id = idAmong members := by
  obtain ⟨documents, ending, inner, values, root, entered, valued, same⟩ :=
    Decoder.object_of_value (Decoder.of_source_ok whole)
  have decoded := Decoder.of_source_ok read
  rw [root] at decoded
  obtain ⟨form, enteredAgain, rest⟩ := bind_eq_ok.mp decoded
  obtain ⟨slots, slotted, further⟩ := bind_eq_ok.mp rest
  obtain ⟨_, _, assembled⟩ := bind_eq_ok.mp further
  rw [entered] at enteredAgain
  cases enteredAgain
  rw [idAmong, same]
  exact Json.optional_eq_member slotted (by decide) (assemble_id assembled) valued

end Request

end Bookmarks
