import BulkIngest.Proofs.Json.Texts
import BulkIngest.Proofs.Sink.Verdicts

/-!
What is decoded of an answer that tells what became of each item. In whatever order an answer gives
its fields, and whatever else it gives beside them, the statuses are those of the items in their
order. An answer with an item that has no result, or several under different names, is refused as a
whole.
-/

namespace BulkIngest

open Json

namespace BulkResponse

/-- The fields tell of the result, whose error nests at most `levels` deep. -/
structure TellsFields (levels : Nat) (fields : List (String × Bytes)) (result : Result) : Prop where
  fielded : Read.Fielded resultShape.names fields
  id : Read.FieldIs Read.depthLimit fields "_id" ((result.id.map Value.string).getD .null)
  status :
    ∃ v, Read.FieldIs Read.depthLimit fields "status" v ∧ Read.IsNatural 65535 v result.status
  error : Read.FieldIs (levels + 1) fields "error" (result.error.getD .null)

def TellsResult (levels : Nat) (text : Bytes) (result : Result) : Prop :=
  ∃ fields, Read.IsObject fields text ∧ TellsFields levels fields result

/-- The text tells of the results of an item, each under the name of its action. -/
def TellsItem (levels : Nat) (text : Bytes) (item : List (String × Result)) : Prop :=
  ∃ fields, Read.IsObject fields text ∧
    List.Forall₂ (fun field entry => field.1 = entry.1 ∧ TellsResult levels field.2 entry.2)
      fields item

/-- The text of a list tells of the items in their order. -/
def TellsItems (levels : Nat) (text : Bytes) (items : List (List (String × Result))) : Prop :=
  ∃ parts, Read.IsList parts text ∧ List.Forall₂ (TellsItem levels) parts items

/-- The answer tells of the items, among whatever else it gives. -/
def TellsAnswer (levels : Nat) (body : Bytes) (items : List (List (String × Result))) : Prop :=
  ∃ fields, Read.IsObject fields body ∧ Read.Fielded itemsShape.names fields ∧
  (∃ text, ("items", text) ∈ fields) ∧
    ∀ text, ("items", text) ∈ fields → TellsItems levels text items

/-- All that the item holds is under one name, and the result is the last of it. -/
def Single (item : List (String × Result)) (result : Result) : Prop :=
  ∃ action, (∀ entry ∈ item, entry.1 = action) ∧ item.getLast? = some (action, result)

/-- Why a document with this status and this error is rejected. -/
inductive Explains (status : Nat) : Value → String → Prop
  | none : Explains status .null s!"HTTP {status}"
  | text (reason : String) : Explains status (.string reason) reason
  | both {fields : Members} {kind reason : String} (type : fields.get? "type" = some (.string kind))
      (because : fields.get? "reason" = some (.string reason)) :
      Explains status (.object fields) s!"{kind}: {reason}"
  | kind {fields : Members} {kind : String} (type : fields.get? "type" = some (.string kind))
      (because : ∀ reason, fields.get? "reason" ≠ some (.string reason)) :
      Explains status (.object fields) kind
  | reason {fields : Members} {reason : String}
      (type : ∀ kind, fields.get? "type" ≠ some (.string kind))
      (because : fields.get? "reason" = some (.string reason)) :
      Explains status (.object fields) reason
  | neither {fields : Members} (type : ∀ kind, fields.get? "type" ≠ some (.string kind))
      (because : ∀ reason, fields.get? "reason" ≠ some (.string reason)) :
      Explains status (.object fields) (Value.object fields).text
  | other {error : Value} (given : error ≠ .null) (no_text : ∀ reason, error ≠ .string reason)
      (no_object : ∀ fields, error ≠ .object fields) : Explains status error error.text

/-- The status of an item is what its result says, an error of null being none. -/
structure Result.Verdict (result : Result) (status : ItemStatus) : Prop where
  accepted : (∃ id, status = .accepted id) ↔
    (200 ≤ result.status ∧ result.status < 300) ∧ (result.error = none ∨ result.error = some .null)
  id_eq : ∀ id, status = .accepted id → id = result.id
  rejected : ∀ code reason, status = .rejected code reason →
    code = result.status ∧ Explains result.status (result.error.getD .null) reason

/-- The answer is decoded as one that tells of the items: to a status for each of them, or to an
error that names the first one that does not have exactly one action. -/
structure Decoded (body : Bytes) (items : List (List (String × Result))) : Prop where
  statuses : ∀ results, List.Forall₂ Single items results →
    ∃ statuses, decode body = .ok statuses ∧ List.Forall₂ Result.Verdict results statuses
  malformed : ∀ (position : Nat) (item : List (String × Result)), items[position]? = some item →
    (∀ result, ¬Single item result) →
    (∀ before < position, ∀ earlier, items[before]? = some earlier →
      ∃ result, Single earlier result) →
    decode body = .error (.malformedResponse s!"item {position} should hold exactly one action")

/-- The result without an error of null. -/
def Result.given (result : Result) : Result :=
  { result with error := result.error.filter (!·.isNull) }

theorem explains_reasonOf (status : Nat) {error : Value} (given : error ≠ .null) :
    Explains status error (reasonOf error) := by
  cases error with
  | null => contradiction
  | string reason => exact .text reason
  | object fields =>
      rw [reasonOf]
      split
      · rename_i type because
        exact .both type because
      · rename_i type noReason
        exact .kind type noReason
      · rename_i because noType
        exact .reason noType because
      · rename_i noType noReason _
        exact .neither noType noReason
  | boolean _ | number _ | array _ =>
      exact .other given (fun _ never => by contradiction) fun _ never => by contradiction

theorem explains_reason (result : Result) :
    Explains result.status (result.error.getD .null) result.given.reason := by
  obtain ⟨id, status, error⟩ := result
  cases error with
  | none => exact .none
  | some error =>
      cases error with
      | null => exact .none
      | _ => exact explains_reasonOf status (by simp)

theorem verdict_given (result : Result) : result.Verdict result.given.toStatus := by
  have yes_iff : result.given.IsYes ↔
      (200 ≤ result.status ∧ result.status < 300) ∧
      (result.error = none ∨ result.error = some .null) := by
    rw [Result.IsYes, and_assoc, ← given_eq_none_iff]
    rfl
  by_cases yes : result.given.IsYes
  · rw [Result.toStatus_of_isYes yes]
    refine ⟨iff_of_true ⟨_, rfl⟩ (yes_iff.1 yes), ?_, fun _ _ never => by contradiction⟩
    rintro _ ⟨⟩
    rfl
  · rw [Result.toStatus_of_not_isYes yes]
    refine ⟨iff_of_false ?_ fun so => yes (yes_iff.2 so), fun _ never => by contradiction, ?_⟩
    · rintro ⟨_, ⟨⟩⟩
    · rintro _ _ ⟨⟩
      exact ⟨rfl, explains_reason result⟩

/-- What the text of a field stands for, by its place in the record. -/
def FieldTells (levels : Nat) (result : Result) : Nat → Bytes → Prop
  | 0, text => Read.whole (Read.anyValue Read.depthLimit) text =
      .ok ((result.id.map Value.string).getD .null)
  | 1, text => ∃ v, Read.whole (Read.anyValue Read.depthLimit) text = .ok v ∧
      Read.IsNatural 65535 v result.status
  | _, text => Read.whole (Read.anyValue (levels + 1)) text = .ok (result.error.getD .null)

/-- The draft when some of the fields of the result have been seen. -/
def draftOf (result : Result) (seen : Nat → Bool) : Draft where
  id := if seen 0 then some result.id else none
  status := if seen 1 then some result.status else none
  error := if seen 2 then some result.given.error else none

/-- An identifier that is absent may also be null. -/
theorem orNull_string (id : Option String) :
    Read.OrNull (fun v s => v = Value.string s) ((id.map Value.string).getD .null) id := by
  cases id with
  | none => exact .inl ⟨rfl, rfl⟩
  | some s => exact .inr ⟨by simp, s, rfl, rfl⟩

theorem orNull_given (result : Result) :
    Read.OrNull (fun v e => v = e) (result.error.getD .null) result.given.error := by
  obtain ⟨id, status, error⟩ := result
  cases error with
  | none => exact .inl ⟨rfl, rfl⟩
  | some v =>
      cases v with
      | null => exact .inl ⟨rfl, rfl⟩
      | _ => exact .inr ⟨by simp, _, rfl, rfl⟩

theorem place_cases {i : Nat} (inside : i < resultShape.names.length) : i = 0 ∨ i = 1 ∨ i = 2 := by
  rw [show resultShape.names.length = 3 from rfl] at inside
  omega

theorem fills_resultShape (levels : Nat) (result : Result) :
    resultShape.Fills (levels + 1) (FieldTells levels result) (draftOf result) where
  start := rfl
  isSet seen i inside := by
    obtain rfl | rfl | rfl := place_cases inside
    · cases here : seen 0 <;> simp [resultShape, draftOf, here]
    · cases here : seen 1 <;> simp [resultShape, draftOf, here]
    · cases here : seen 2 <;> simp [resultShape, draftOf, here]
  assign seen i inside text tells := by
    obtain rfl | rfl | rfl := place_cases inside
    · have read : Read.whole (Read.anyValue Read.depthLimit) text = .ok _ := tells
      have takes := Read.takes_optional read (fun s fit => Read.takes_text (fit ▸ read))
        (orNull_string result.id)
      have same : draftOf result (Function.update seen 0 true) =
          { draftOf result seen with id := some result.id } := by simp [draftOf]
      rw [same]
      exact takes.map fun id => { draftOf result seen with id := some id }
    · obtain ⟨v, read, fit⟩ := tells
      have same : draftOf result (Function.update seen 1 true) =
          { draftOf result seen with status := some result.status } := by simp [draftOf]
      rw [same]
      exact (Read.takes_natural read fit "u16").map fun status =>
        { draftOf result seen with status := some status }
    · have read : Read.whole (Read.anyValue (levels + 1)) text = .ok _ := tells
      have takes :=
        Read.takes_optional read (fun e fit => Read.takes_anyValue (fit ▸ read))
        (orNull_given result)
      have same : draftOf result (Function.update seen 2 true) =
          { draftOf result seen with error := some result.given.error } := by simp [draftOf]
      rw [same]
      exact takes.map fun error => { draftOf result seen with error := some error }

theorem complete_draftOf {result : Result} {seen : Nat → Bool} (status : seen 1 = true)
    (id : seen 0 = false → result.id = none) (error : seen 2 = false → result.given.error = none) :
    resultShape.complete (draftOf result seen) = .ok result.given := by
  have id : (if seen 0 then some result.id else none).getD none = result.id := by
    cases here : seen 0 with
    | true => rfl
    | false => exact (id here).symm
  have error : (if seen 2 then some result.given.error else none).getD none =
    result.given.error := by
    cases here : seen 2 with
    | true => rfl
    | false => exact (error here).symm
  simp only [resultShape, draftOf, if_pos status, id, error]
  rfl

theorem TellsFields.complete {levels : Nat} {fields : List (String × Bytes)} {result : Result}
    (h : TellsFields levels fields result) :
    resultShape.complete (draftOf result fun i =>
      decide (i ∈ Read.places resultShape.names fields)) =
      .ok result.given := by
  refine complete_draftOf (decide_eq_true ?_) (fun absent => ?_) fun absent => ?_
  · by_contra absent
    obtain ⟨v, is, whole, rfl, -⟩ := h.status
    have never := is.eq_null rfl absent
    contradiction
  · have null := h.id.eq_null rfl (of_decide_eq_false absent)
    cases here : result.id with
    | none => rfl
    | some s =>
        rw [here] at null
        contradiction
  · have null := h.error.eq_null rfl (of_decide_eq_false absent)
    obtain ⟨-, absent⟩ | ⟨given, -⟩ := orNull_given result
    · exact absent
    · exact (given null).elim

theorem TellsResult.takes {levels : Nat} {text : Bytes} {result : Result}
    (h : TellsResult levels text result) :
    Read.Takes (resultShape.read (levels + 2)) text result.given := by
  obtain ⟨fields, object, tells⟩ := h
  refine (fills_resultShape levels result).takes object tells.fielded (fun i inside text mem => ?_)
    tells.complete
  obtain rfl | rfl | rfl := place_cases inside
  · exact tells.id.read text mem
  · obtain ⟨v, is, fit⟩ := tells.status
    exact ⟨v, is.read text mem, fit⟩
  · exact tells.error.read text mem

/-- What is read of an item: of what it holds under the same name, the last. -/
def entriesOf (item : List (String × Result)) : List (String × Result) :=
  (Read.gathered [] (item.map (Prod.map id Result.given))).reverse

theorem TellsItem.takes {levels : Nat} {text : Bytes} {item : List (String × Result)}
    (h : TellsItem levels text item) :
    Read.Takes (Read.mapOf (levels + 3) resultShape.read) text (entriesOf item) := by
  obtain ⟨fields, object, each⟩ := h
  refine Read.takes_mapOf object ?_
  rw [List.forall₂_map_right_iff]
  exact each.imp fun field entry ⟨same, tells⟩ => ⟨same, tells.takes⟩

theorem fills_itemsShape (depth : Nat) (items : Items) :
    itemsShape.Fills depth
      (fun _ text => Read.Takes (Read.listOf depth fun depth => Read.mapOf depth resultShape.read)
        text items)
      fun seen => if seen 0 then some items else none where
  start := rfl
  isSet seen i inside := by
    match i, inside with
    | 0, _ => cases here : seen 0 <;> rfl
  assign seen i inside text takes := by
    match i, inside with
    | 0, _ =>
        rw [Function.update_self, if_pos rfl]
        exact takes.map some

theorem TellsItems.takes {levels : Nat} {text : Bytes} {items : List (List (String × Result))}
    (h : TellsItems levels text items) :
    Read.Takes (Read.listOf (levels + 4) fun depth => Read.mapOf depth resultShape.read) text
      (items.map entriesOf) := by
  obtain ⟨parts, list, each⟩ := h
  refine Read.takes_listOf list ?_
  rw [List.forall₂_map_right_iff]
  exact each.imp fun part item tells => tells.takes

theorem itemsOf_of_tells {body : Bytes} {items : List (List (String × Result))}
    (h : TellsAnswer 123 body items) :
    itemsOf body = .ok (items.map entriesOf) := by
  obtain ⟨fields, object, fielded, ⟨text, mem⟩, each⟩ := h
  have here : 0 ∈ Read.places itemsShape.names fields := Read.mem_places.2 ⟨_, mem, rfl⟩
  refine ((fills_itemsShape 127 (items.map entriesOf)).takes object fielded
    (fun i inside text mem => ?_) ?_).whole
  · match i, inside with
    | 0, _ => exact (each text mem).takes
  · simp only [decide_eq_true here, if_true]
    rfl

section Gathered

variable {α : Type} {action : String} {done entries : List (String × α)}

/-- However often a name is given, it stays. -/
theorem mem_names_gathered {name : String} : name ∈ (Read.gathered done entries).map (·.1) ↔
    name ∈ done.map (·.1) ∨ name ∈ entries.map (·.1) := by
  induction entries generalizing done with
  | nil => simp [Read.gathered]
  | cons entry entries ih =>
      rw [Read.gathered, List.foldl_cons, ← Read.gathered, ih]
      by_cases same : name = entry.1 <;> simp [same]

/-- Of entries under one name, the last is left. -/
theorem gathered_of_alike {first last : String × α}
    (alike : ∀ entry ∈ first :: entries, entry.1 = action)
    (ends : (first :: entries).getLast? = some last) : Read.gathered [first] entries = [last] := by
  induction entries generalizing first with
  | nil => simpa [Read.gathered] using ends
  | cons entry entries ih =>
      obtain ⟨here, later⟩ := List.forall_mem_cons.1 alike
      have same : first.1 = entry.1 := here.trans (later entry List.mem_cons_self).symm
      rw [Read.gathered, List.foldl_cons, ← Read.gathered, List.filter_cons_of_neg (by simp [same])]
      exact ih later (List.getLast?_cons_cons ▸ ends)

end Gathered

variable {item : List (String × Result)} {result : Result}

theorem entriesOf_of_single (h : Single item result) :
    ∃ action, entriesOf item = [(action, result.given)] := by
  obtain ⟨action, alike, ends⟩ := h
  have named : ∀ entry ∈ item.map (Prod.map id Result.given), entry.1 = action := by
    rw [List.forall_mem_map]
    exact alike
  have last : (item.map (Prod.map id Result.given)).getLast? = some (action, result.given) := by
    rw [List.getLast?_map, ends]
    rfl
  cases item with
  | nil => contradiction
  | cons first entries => exact ⟨action, congrArg List.reverse (gathered_of_alike named last)⟩

/-- An item of which one entry is read has one action. -/
theorem exists_single (h : (entriesOf item).length = 1) : ∃ result, Single item result := by
  obtain ⟨⟨action, _⟩, one⟩ := List.length_eq_one_iff.1 h
  have gathered : Read.gathered [] (item.map (Prod.map id Result.given)) = [(action, _)] :=
    List.reverse_inj.1 one
  have named : ∀ entry ∈ item, entry.1 = action := by
    intro entry mem
    have known : entry.1 ∈ (item.map (Prod.map id Result.given)).map (·.1) := by
      rw [List.map_map]
      exact List.mem_map.2 ⟨entry, mem, rfl⟩
    have found : entry.1 ∈ (Read.gathered [] (item.map (Prod.map id Result.given))).map (·.1) :=
      mem_names_gathered.2 (.inr known)
    rw [gathered] at found
    simpa using found
  cases last : item.getLast? with
  | none =>
      rw [List.getLast?_eq_none_iff.1 last] at gathered
      contradiction
  | some entry =>
      exact ⟨entry.2, action, named, by rw [last, ← named entry (List.mem_of_getLast? last)]⟩

theorem length_entriesOf (h : Single item result) : (entriesOf item).length = 1 := by
  obtain ⟨action, one⟩ := entriesOf_of_single h
  rw [one]
  rfl

/-- Items with one action each are read as their results, without errors of null. -/
theorem map_entriesOf {items : List (List (String × Result))} {results : List Result}
    (each : List.Forall₂ Single items results) :
    ∃ named : List (String × Result), items.map entriesOf = named.map (fun result => [result]) ∧
      named.map (·.2) = results.map Result.given := by
  induction each with
  | nil => exact ⟨[], rfl, rfl⟩
  | cons single _ ih =>
      obtain ⟨action, one⟩ := entriesOf_of_single single
      obtain ⟨named, same, given⟩ := ih
      exact ⟨(action, _) :: named, by rw [List.map_cons, one, same, List.map_cons],
        by rw [List.map_cons, given, List.map_cons]⟩

/-- An answer is decoded as what it tells, when its errors nest at most 123 deep: values nest at
most 127 deep, and the answer, its items, the item and the result are four of those levels. -/
theorem answer_decoded {body : Bytes} {items : List (List (String × Result))}
    (tells : TellsAnswer 123 body items) : Decoded body items where
  statuses results each := by
    obtain ⟨named, same, given⟩ := map_entriesOf each
    refine ⟨results.map (·.given.toStatus), ?_, ?_⟩
    · have statuses := congrArg (List.map Result.toStatus) given
      rw [List.map_map, List.map_map] at statuses
      rw [decode_of_itemsOf (itemsOf_of_tells tells), same, statuses_single]
      exact congrArg Except.ok statuses
    · rw [List.forall₂_map_right_iff, List.forall₂_same]
      exact fun result _ => verdict_given result
  malformed position item here notSingle first := by
    rw [decode_of_itemsOf (itemsOf_of_tells tells)]
    have read : (items.map entriesOf)[position]? = some (entriesOf item) := by
      rw [List.getElem?_map, here]
      rfl
    refine statuses_ambiguous read ?_ ?_
    · intro one
      obtain ⟨result, single⟩ := exists_single one
      exact notSingle result single
    · intro before less earlier there
      rw [List.getElem?_map] at there
      obtain ⟨item', found, rfl⟩ := Option.map_eq_some_iff.1 there
      obtain ⟨result, single⟩ := first before less item' found
      exact length_entriesOf single

theorem exists_status {fields : List (String × Bytes)} {n : Nat} (fits : n ≤ 65535)
    (only : fields.filter (·.1 = "status") =
      [("status", Text.bytes (Value.ofNat n (Nat.lt_of_le_of_lt fits (by decide))).text)]) :
    ∃ v, Read.FieldIs Read.depthLimit fields "status" v ∧ Read.IsNatural 65535 v n :=
  ⟨_, .of_filter only (Read.whole_text (.whole _)), _, rfl, rfl, fits⟩

/-- An answer with one item, behind a field that nobody asked for. -/
def answerOf (fields : List (String × Bytes)) : Bytes :=
  Read.objectText [("took", [0x37]),
    ("items", Read.listText [Read.objectText [("index", Read.objectText fields)]])]

theorem tells_answerOf {levels : Nat} {fields : List (String × Bytes)} {result : Result}
    (tells : TellsFields levels fields result) :
    TellsAnswer levels (answerOf fields) [[("index", result)]] := by
  refine ⟨_, Read.isObject_objectText _, ⟨List.nodup_singleton 0, fun field mem unknown => ?_⟩,
    ⟨_, List.mem_cons_of_mem _ (List.mem_singleton_self _)⟩, fun text mem => ?_⟩
  · simp only [List.mem_cons, List.not_mem_nil, or_false] at mem
    obtain rfl | rfl := mem
    · exact .positive (.positive rfl (by decide) (List.forall_mem_nil _) .none .none)
    · exact (unknown (List.mem_singleton_self _)).elim
  · obtain rfl : text = _ := by simpa using mem
    exact ⟨_, Read.isList_listText _, .cons ⟨_, Read.isObject_objectText _,
      .cons ⟨rfl, _, Read.isObject_objectText _, tells⟩ .nil⟩ .nil⟩

theorem single_of_singleton (action : String) (result : Result) :
    Single [(action, result)] result :=
  ⟨action, by simp, rfl⟩

def busy : Value := .object [("reason", .string "late"), ("type", .string "busy")]

/-- The error comes first, and the status after something else. -/
def busyFields : List (String × Bytes) :=
  [("error", Text.bytes busy.text), ("_seq_no", 0x6E :: Read.wordNull),
    ("status", Text.bytes (Value.ofNat 429).text)]

theorem answer_decoded_busy :
    TellsAnswer 123 (answerOf busyFields) [[("index", ⟨none, 429, some busy⟩)]] ∧
      ∃ statuses, decode (answerOf busyFields) = .ok statuses ∧
        List.Forall₂ Result.Verdict [⟨none, 429, some busy⟩] statuses := by
  have fields_tell : TellsFields 123 busyFields ⟨none, 429, some busy⟩ := by
    have regular : busy.Regular 123 := .object (by decide) (by simp [Value.Regular.string])
    refine ⟨⟨by decide, fun field mem unknown => ?_⟩, .of_absent (by simp [busyFields]),
      exists_status (by decide) (by simp [busyFields]),
      .of_filter (by simp [busyFields]) (Read.whole_text regular)⟩
    simp only [busyFields, List.mem_cons, List.not_mem_nil, or_false] at mem
    obtain rfl | rfl | rfl := mem
    · exact (unknown (by decide)).elim
    · exact .null
    · exact (unknown (by decide)).elim
  have tells := tells_answerOf fields_tell
  exact ⟨tells, (answer_decoded tells).statuses _ (.cons (single_of_singleton _ _) .nil)⟩

example : (decode (answerOf busyFields)).toOption = some [.rejected 429 "busy: late"] := by
    decide +kernel

/-- Lists inside each other, one more than so many. -/
def nested : Nat → Value
  | 0 => .array []
  | levels + 1 => .array [nested levels]

theorem regular_nested (levels : Nat) : (nested levels).Regular (levels + 1) := by
  induction levels with
  | zero => exact .array (List.forall_mem_nil _)
  | succ levels ih => exact .array fun v mem => List.mem_singleton.1 mem ▸ ih

def deepFields : List (String × Bytes) :=
  [("status", Text.bytes (Value.ofNat 200).text), ("error", Text.bytes (nested 123).text)]

/-- An error that nests deeper than the limit leaves room for makes the answer unreadable. -/
theorem not_all_answers_decoded :
    ¬∀ (levels : Nat) (body : Bytes) (items : List (List (String × Result))),
      TellsAnswer levels body items → Decoded body items := by
  intro all
  have fields_tell : TellsFields 124 deepFields ⟨none, 200, some (nested 123)⟩ := by
    refine ⟨⟨by decide, fun field mem unknown => ?_⟩, .of_absent (by simp [deepFields]),
      exists_status (by decide) (by simp [deepFields]),
      .of_filter (by simp [deepFields]) (Read.whole_text (regular_nested 123))⟩
    simp only [deepFields, List.mem_cons, List.not_mem_nil, or_false] at mem
    obtain rfl | rfl := mem <;> exact (unknown (by decide)).elim
  obtain ⟨statuses, read, -⟩ :=
    (all _ _ _ (tells_answerOf fields_tell)).statuses _ (.cons (single_of_singleton _ _) .nil)
  have unreadable : (decode (answerOf deepFields)).isOk = false := by decide +kernel
  rw [read] at unreadable
  exact Bool.noConfusion (unreadable : true = false)

end BulkResponse

end BulkIngest
