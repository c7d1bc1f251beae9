import BulkIngest.DataFormat
import BulkIngest.Json.Shape

/-!
Data out of a JSON value. The members of an object are looked at in ascending order of their names
and those that are not known are passed over; a list holds the fields of a record in their own
order.
-/

namespace BulkIngest.Json

namespace Value

def found : Value → Found
  | .null => .null
  | .boolean b => .boolean b
  | .number n => n.found
  | .string s => .string s
  | .array _ => .sequence
  | .object _ => .map

def asText : Value → Except Problem String
  | .string s => .ok s
  | v => .error (.invalidType v.found "a string")

/-- A whole number from zero up to `max`. -/
def asNatural (max : Nat) (expected : String) : Value → Except Problem Nat
  | .number (.whole n) =>
    if 0 ≤ n.value ∧ n.value.toNat ≤ max then .ok n.value.toNat
    else .error (.invalidValue (.integer n.value) expected)
  | v => .error (.invalidType v.found expected)

def asOptional {α : Type} (decode : Value → Except Problem α) : Value → Except Problem (Option α)
  | .null => .ok none
  | v => (decode v).map some

def asList {α : Type} (decode : Value → Except Problem α) : Value → Except Problem (List α)
  | .array vs => vs.mapM decode
  | v => .error (.invalidType v.found "a sequence")

/-- One of `known`, as its name or as an object from its name to null. -/
def asVariant {α : Type} (known : List (String × α)) (v : Value) : Except Problem α :=
  let pick (name : String) : Except Problem α :=
    match known.lookup name with
    | some a => .ok a
    | none => .error (.unknownVariant name (known.map (·.1)))
  match v with
  | .string name => pick name
  | .object [(name, content)] => do
    let a ← pick name
    if content.isNull then .ok a else .error (.invalidType content.found "unit")
  | .object _ => .error (.invalidValue .map "map with a single key")
  | v => .error (.invalidType v.found "string or map")

/-- A record whose fields are `names`. `assign` puts a value into a field of the draft. -/
def asRecord {δ : Type} (description : String) (names : List String)
    (assign : δ → String → Value → Except Problem δ) (draft : δ) : Value → Except Problem δ
  | .object members =>
    members.foldlM
      (fun draft (name, v) => if names.contains name then assign draft name v else .ok draft) draft
  | .array vs => do
    let draft ← (names.zip vs).foldlM (fun draft (name, v) => assign draft name v) draft
    if names.length < vs.length then .error (.invalidLength vs.length "fewer elements in array")
    else .ok draft
  | v => .error (.invalidType v.found description)

end Value

def format : DataFormat Value Problem where
  text := Value.asText
  natural := Value.asNatural
  optional := Value.asOptional
  list := Value.asList
  variant _ := Value.asVariant

end BulkIngest.Json
