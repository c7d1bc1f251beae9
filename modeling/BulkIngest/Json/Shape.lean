import BulkIngest.Json.Reader

/-!
Reading JSON text as data of a known shape. A value of another kind is reported behind itself, but a
list or an object, which is not entered, before itself. A record may be written as an object or as a
list of its fields in order; what is wrong with the record as a whole is reported at its end.
-/

namespace BulkIngest.Json

/-- What a value that was read is called when something else was due. -/
def Number.found : Number → Found
  | .whole n => .integer n.value
  | .float x => .float x

namespace Read

/-- The fault of a value, here next, where `expected` was due. -/
def wrongType {α : Type} (expected : String) : Bytes → Except Fault α
  | [] => failNext .expectedValue []
  | b :: rest =>
    let found (result : Except Fault (Found × Bytes)) : Except Fault α :=
      result >>= fun (found, rest) => fail (.invalidType found expected) rest
    if b = 0x6E then found ((word wordNull rest).map fun rest => (.null, rest))
    else if b = 0x74 then found ((word wordTrue rest).map fun rest => (.boolean true, rest))
    else if b = 0x66 then found ((word wordFalse rest).map fun rest => (.boolean false, rest))
    else if b = 0x2D then
      found ((Numeral.unsigned true rest).map fun (n, rest) => (n.found, rest))
    else if (digit? b).isSome then
      found ((Numeral.unsigned false (b :: rest)).map fun (n, rest) => (n.found, rest))
    else if b = 0x22 then found ((string rest).map fun (s, rest) => (.string s, rest))
    else if b = 0x5B then fail (.invalidType .sequence expected) (b :: rest)
    else if b = 0x7B then fail (.invalidType .map expected) (b :: rest)
    else failNext .expectedValue (b :: rest)

def text : Reader String := fun input =>
  match skipBlanks input with
  | [] => failNext .endOfValue []
  | b :: rest => if b = 0x22 then string rest else wrongType "a string" (b :: rest)

/-- A whole number from zero up to `max`. -/
def natural (max : Nat) (expected : String) : Reader Nat := fun input =>
  let bounded : Number × Bytes → Except Fault (Nat × Bytes)
    | (.whole n, rest) =>
      if 0 ≤ n.value ∧ n.value.toNat ≤ max then .ok (n.value.toNat, rest)
      else fail (.invalidValue (.integer n.value) expected) rest
    | (.float x, rest) => fail (.invalidType (.float x) expected) rest
  match skipBlanks input with
  | [] => failNext .endOfValue []
  | b :: rest =>
    if b = 0x2D then Numeral.unsigned true rest >>= bounded
    else if (digit? b).isSome then Numeral.unsigned false (b :: rest) >>= bounded
    else wrongType expected (b :: rest)

def optional {α : Type} (inner : Reader α) : Reader (Option α) := fun input =>
  match skipBlanks input with
  | 0x6E :: rest => (word wordNull rest).map fun rest => (none, rest)
  | input => (inner input).map fun (a, rest) => (some a, rest)

/-- A value with `depth` levels of nesting left. -/
def anyValue (depth : Nat) : Reader Value := fun input => value (fuelFor input) depth input

def ignored : Reader Unit := fun input =>
  (skipValue (fuelFor input) [] input).map fun rest => ((), rest)

/-- The items of a list behind its opening bracket. -/
def items {α : Type} (item : Reader α) (fuel : Nat) (first : Bool) (done : List α) (input : Bytes) :
    Except Fault (List α × Bytes) :=
  match fuel with
  | 0 => fail .nestingTooDeep input
  | fuel + 1 =>
    match hasElement first input with
    | .error fault => .error fault
    | .ok (false, rest) => (endOfList rest).map fun rest => (done.reverse, rest)
    | .ok (true, rest) =>
      match item rest with
      | .error fault => .error fault
      | .ok (a, rest) => items item fuel false (a :: done) rest

/-- A list, with `depth` levels of nesting left for it and `depth - 1` for its items. -/
def listOf {α : Type} (depth : Nat) (item : Nat → Reader α) : Reader (List α) := fun input =>
  match skipBlanks input with
  | [] => failNext .endOfValue []
  | b :: rest =>
    if b = 0x5B then
      if depth ≤ 1 then failNext .nestingTooDeep (b :: rest)
      else items (item (depth - 1)) (fuelFor rest) true [] rest
    else wrongType "a sequence" (b :: rest)

/-- The entries of an object behind its opening brace; an entry replaces one of the same name. -/
def entries {α : Type} (item : Reader α) (fuel : Nat) (first : Bool) (done : List (String × α))
    (input : Bytes) : Except Fault (List (String × α) × Bytes) :=
  match fuel with
  | 0 => fail .nestingTooDeep input
  | fuel + 1 =>
    match hasName first input with
    | .error fault => .error fault
    | .ok (false, rest) => (endOfObject rest).map fun rest => (done.reverse, rest)
    | .ok (true, rest) =>
      match string rest with
      | .error fault => .error fault
      | .ok (name, rest) =>
        match colon rest >>= item with
        | .error fault => .error fault
        | .ok (a, rest) =>
          entries item fuel false ((name, a) :: done.filter (·.1 ≠ name)) rest

def mapOf {α : Type} (depth : Nat) (item : Nat → Reader α) : Reader (List (String × α)) :=
  fun input =>
  match skipBlanks input with
  | [] => failNext .endOfValue []
  | b :: rest =>
    if b = 0x7B then
      if depth ≤ 1 then failNext .nestingTooDeep (b :: rest)
      else entries (item (depth - 1)) (fuelFor rest) true [] rest
    else wrongType "a map" (b :: rest)

/-- The octets that are left when a list is closed as far as it goes. -/
def behindList (input : Bytes) : Bytes :=
  match skipBlanks input with
  | 0x5D :: rest => rest
  | 0x2C :: rest => skipBlanks rest
  | rest => rest

/-- The octets that are left when an object is closed as far as it goes. -/
def behindObject (input : Bytes) : Bytes :=
  match skipBlanks input with
  | 0x7D :: rest => rest
  | rest => rest

/-- A record under construction. Its fields are numbered in order; `assign i` reads field `i` into
the draft, and `complete` turns a draft into the record or names a field that it lacks. -/
structure RecordShape (δ α : Type) where
  description : String
  names : List String
  draft : δ
  isSet : δ → Nat → Bool
  assign : Nat → Nat → δ → Reader δ
  complete : δ → Except String α

namespace RecordShape

variable {δ α : Type}

def fromObject (shape : RecordShape δ α) (depth fuel : Nat) (first : Bool) (draft : δ)
    (input : Bytes) : Except Fault (α × Bytes) :=
  match fuel with
  | 0 => fail .nestingTooDeep input
  | fuel + 1 =>
    match hasName first input with
    | .error fault => .error fault
    | .ok (false, rest) =>
      match shape.complete draft with
      | .ok record => (endOfObject rest).map fun rest => (record, rest)
      | .error name => fail (.missingField name) (behindObject rest)
    | .ok (true, rest) =>
      match string rest with
      | .error fault => .error fault
      | .ok (name, rest) =>
        match shape.names.idxOf? name with
        | none =>
          match colon rest >>= ignored with
          | .error fault => .error fault
          | .ok (_, rest) => fromObject shape depth fuel false draft rest
        | some i =>
          if shape.isSet draft i then fail (.duplicateField name) (behindObject rest)
          else
            match colon rest >>= shape.assign depth i draft with
            | .error fault => .error fault
            | .ok (draft, rest) => fromObject shape depth fuel false draft rest

def fromList (shape : RecordShape δ α) (depth : Nat) (i : Nat) (draft : δ) (input : Bytes) :
    List String → Except Fault (α × Bytes)
  | [] =>
    match shape.complete draft with
    | .ok record => (endOfList input).map fun rest => (record, rest)
    | .error name => fail (.missingField name) (behindList input)
  | _ :: names =>
    match hasElement (i = 0) input with
    | .error fault => .error fault
    | .ok (false, rest) =>
      let count := shape.names.length
      let elements := if count = 1 then "1 element" else s!"{count} elements"
      fail (.invalidLength i s!"{shape.description} with {elements}") (behindList rest)
    | .ok (true, rest) =>
      match shape.assign depth i draft rest with
      | .error fault => .error fault
      | .ok (draft, rest) => fromList shape depth (i + 1) draft rest names

def read (shape : RecordShape δ α) (depth : Nat) : Reader α := fun input =>
  match skipBlanks input with
  | [] => failNext .endOfValue []
  | b :: rest =>
    if b = 0x5B then
      if depth ≤ 1 then failNext .nestingTooDeep (b :: rest)
      else shape.fromList (depth - 1) 0 shape.draft rest shape.names
    else if b = 0x7B then
      if depth ≤ 1 then failNext .nestingTooDeep (b :: rest)
      else shape.fromObject (depth - 1) (fuelFor rest) true shape.draft rest
    else wrongType shape.description (b :: rest)

end RecordShape

/-- Reads a whole text. -/
def whole {α : Type} (reader : Reader α) (input : Bytes) : Except Fault α :=
  reader input >>= finish

end Read

end BulkIngest.Json
