import BulkIngest.Failure
import BulkIngest.Json.Shape
import BulkIngest.Json.Printer
import BulkIngest.Outcome

/-!
The answer to a bulk request: a list with an object for each item, whose only entry is named after
the action and says what became of the item. An answer that cannot be read says nothing about any
item.
-/

namespace BulkIngest.BulkResponse

open Json

/-- What the answer says under the name of an action. -/
structure Result where
  id : Option String
  status : Nat
  error : Option Value

structure Draft where
  id : Option (Option String)
  status : Option Nat
  error : Option (Option Value)

def resultShape : Read.RecordShape Draft Result where
  description := "struct BulkItemResponse"
  names := ["_id", "status", "error"]
  draft := ⟨none, none, none⟩
  isSet draft
    | 0 => draft.id.isSome
    | 1 => draft.status.isSome
    | _ => draft.error.isSome
  assign depth i draft :=
    match i with
    | 0 => fun input => (Read.optional Read.text input).map fun (id, rest) =>
        ({ draft with id := some id }, rest)
    | 1 => fun input => (Read.natural 65535 "u16" input).map fun (status, rest) =>
        ({ draft with status := some status }, rest)
    | _ => fun input => (Read.optional (Read.anyValue depth) input).map fun (error, rest) =>
        ({ draft with error := some error }, rest)
  complete draft :=
    match draft.status with
    | none => .error "status"
    | some status => .ok ⟨draft.id.getD none, status, draft.error.getD none⟩

/-- The items of an answer, each with its entries. -/
abbrev Items := List (List (String × Result))

def itemsShape : Read.RecordShape (Option Items) Items where
  description := "struct BulkResponse"
  names := ["items"]
  draft := none
  isSet draft _ := draft.isSome
  assign depth _ _ := fun input =>
    (Read.listOf depth (fun depth => Read.mapOf depth resultShape.read) input).map
      fun (items, rest) => (some items, rest)
  complete
    | none => .error "items"
    | some items => .ok items

/-- The reason in an error: its text, or the type and the reason of an object as far as they are
text, or else its JSON. -/
def reasonOf : Value → String
  | .string reason => reason
  | .object fields =>
    match Entries.get? fields "type", Entries.get? fields "reason" with
    | some (.string kind), some (.string reason) => s!"{kind}: {reason}"
    | some (.string kind), _ => kind
    | _, some (.string reason) => reason
    | _, _ => (Value.object fields).text
  | other => other.text

def Result.toStatus (result : Result) : ItemStatus :=
  match result.error with
  | none =>
    if 200 ≤ result.status ∧ result.status < 300 then .accepted result.id
    else .rejected result.status s!"HTTP {result.status}"
  | some error => .rejected result.status (reasonOf error)

/-- The status of every item, or the first one that does not hold exactly one action. -/
def statuses (position : Nat) : Items → Except TransportError (List ItemStatus)
  | [] => .ok []
  | [(_, result)] :: rest => (statuses (position + 1) rest).map (result.toStatus :: ·)
  | _ :: _ => .error (.malformedResponse s!"item {position} should hold exactly one action")

def decode (body : Bytes) : Except TransportError (List ItemStatus) :=
  match Read.whole (itemsShape.read Read.depthLimit) body with
  | .error fault => .error (.malformedResponse (fault.message body))
  | .ok items => statuses 0 items

end BulkIngest.BulkResponse
