import Mathlib
import BulkIngest.Proofs.Json.Records
import BulkIngest.Proofs.Retry.Moves
import BulkIngest.Sink.Backend

/-!
What the answer to a bulk request makes of a batch. Each document is judged by the result in its own
place, and only if every item of the answer has one result and there are as many items as documents;
any other answer judges no document at all. What a result says is what the JSON value in the same
octets says.
-/

namespace BulkIngest

open Json

namespace BulkResponse

/-- The items in the octets of an answer. -/
def itemsOf (body : Bytes) : Except Fault Items := Read.whole (itemsShape.read Read.depthLimit) body

/-- Whether the backend took the document. -/
def Result.IsYes (result : Result) : Prop :=
  200 ≤ result.status ∧ result.status < 300 ∧ result.error = none

/-- Why the backend did not take the document. -/
def Result.reason (result : Result) : String :=
  match result.error with
  | none => s!"HTTP {result.status}"
  | some error => reasonOf error

/-- The outcome of a document is what the result says about it. -/
structure Result.Judges (result : Result) (ref : DocumentRef) (outcome : Outcome) : Prop where
  ref_eq : outcome.ref = ref
  success : outcome.isSuccess = true ↔ result.IsYes
  rejected : ¬result.IsYes →
    outcome.failure = some ⟨.documentRejected, s!"{result.status}: {result.reason}"⟩

/-- The outcomes of documents are what the results in the same places say. -/
def Judged (refs : List DocumentRef) (results : List (String × Result))
    (outcomes : List Outcome) : Prop :=
  outcomes.length = refs.length ∧
    ∀ (i : Nat) (ref : DocumentRef) (action : String) (result : Result) (outcome : Outcome),
      refs[i]? = some ref → results[i]? = some (action, result) → outcomes[i]? = some outcome →
        result.Judges ref outcome

/-- Answers that judge no document, and what is wrong with them. -/
inductive Unusable (batch : Batch) (body : Bytes) : TransportError → Prop
  | unreadable {fault : Fault} (read : itemsOf body = .error fault) :
      Unusable batch body (.malformedResponse (fault.message body))
  /-- The first item that has no result, or several. -/
  | ambiguous {items : Items} {position : Nat} {item : List (String × Result)}
      (read : itemsOf body = .ok items) (here : items[position]? = some item)
      (not_one : item.length ≠ 1)
      (first : ∀ before < position, ∀ earlier, items[before]? = some earlier → earlier.length = 1) :
      Unusable batch body (.malformedResponse s!"item {position} should hold exactly one action")
  | miscounted {items : Items} (read : itemsOf body = .ok items)
      (each : ∀ item ∈ items, item.length = 1)
      (count : items.length ≠ batch.size) :
      Unusable batch body (.itemCountMismatch batch.size items.length)

variable {result : Result} {ref : DocumentRef} {outcome : Outcome}

theorem Result.toStatus_of_isYes (yes : result.IsYes) : result.toStatus = .accepted result.id := by
  obtain ⟨least, most, noError⟩ := yes
  simp only [toStatus, noError]
  exact if_pos ⟨least, most⟩

theorem Result.toStatus_of_not_isYes (no : ¬result.IsYes) :
    result.toStatus = .rejected result.status result.reason := by
  cases error : result.error with
  | some e => simp only [toStatus, reason, error]
  | none =>
      simp only [toStatus, reason, error]
      exact if_neg fun content => no ⟨content.1, content.2, error⟩

/-- The outcome that the result stands for, and no other, is what the result says. -/
theorem Result.judges_iff :
    result.Judges ref outcome ↔ outcome = Outcome.ofStatus ref result.toStatus := by
  by_cases yes : result.IsYes
  · rw [toStatus_of_isYes yes]
    constructor
    · rintro ⟨rfl, success, -⟩
      obtain ⟨ref, failure⟩ := outcome
      have success : failure = .none := Option.isNone_iff_eq_none.1 (success.2 yes)
      rw [success]
      rfl
    · rintro rfl
      exact ⟨rfl, iff_of_true rfl yes, fun no => (no yes).elim⟩
  · rw [toStatus_of_not_isYes yes]
    constructor
    · rintro ⟨rfl, -, rejected⟩
      obtain ⟨ref, failure⟩ := outcome
      have rejected : failure = _ := rejected yes
      rw [rejected]
      rfl
    · rintro rfl
      exact ⟨rfl, iff_of_false Bool.false_ne_true yes, fun _ => rfl⟩

theorem judged_iff {refs : List DocumentRef} {results : List (String × Result)}
    {outcomes : List Outcome}
    (count : results.length = refs.length) : Judged refs results outcomes ↔
      outcomes = List.zipWith Outcome.ofStatus refs (results.map (·.2.toStatus)) := by
  constructor
  · rintro ⟨length, each⟩
    refine List.ext_getElem (by simp [length, count]) fun i inside _ => ?_
    have atRef : i < refs.length := length ▸ inside
    have judged := each i refs[i] results[i].1 results[i].2 outcomes[i]
      (List.getElem?_eq_getElem atRef)
      (List.getElem?_eq_getElem (count ▸ atRef)) (List.getElem?_eq_getElem inside)
    simpa using Result.judges_iff.1 judged
  · rintro rfl
    refine ⟨by simp [count], fun i ref action result outcome atRef atResult atOutcome => ?_⟩
    apply Result.judges_iff.2
    simpa [List.getElem?_zipWith, atRef, atResult, eq_comm] using atOutcome

/-- Either every item has one result, or there is a first one that has none or several. -/
theorem statuses_cases (start : Nat) (items : Items) :
    (∃ results : List (String × Result), items = results.map (fun result => [result]) ∧
      statuses start items = .ok (results.map (·.2.toStatus))) ∨
    ∃ position item, items[position]? = some item ∧ item.length ≠ 1 ∧
      (∀ before < position, ∀ earlier, items[before]? = some earlier → earlier.length = 1) ∧
      statuses start items =
        .error (.malformedResponse s!"item {start + position} should hold exactly one action") := by
  induction items generalizing start with
  | nil => exact .inl ⟨[], rfl, rfl⟩
  | cons item items ih =>
      by_cases one : item.length = 1
      · obtain ⟨⟨action, result⟩, rfl⟩ := List.length_eq_one_iff.1 one
        obtain ⟨results, rfl, rest⟩ | ⟨position, item, here, notOne, first, rest⟩ := ih (start + 1)
        · exact .inl ⟨(action, result) :: results, rfl, by rw [statuses, rest]; rfl⟩
        · refine .inr ⟨position + 1, item, here, notOne, fun before less earlier found => ?_, ?_⟩
          · cases before with
            | zero =>
                obtain rfl := Option.some.inj found
                rfl
            | succ before => exact first before (Nat.lt_of_succ_lt_succ less) earlier found
          · rw [statuses, rest, Nat.add_assoc, Nat.add_comm 1]
            rfl
      · refine .inr ⟨0, item, rfl, one, fun _ less => (Nat.not_lt_zero _ less).elim, ?_⟩
        rw [statuses.eq_3 _ _ _ fun action result same => one (by rw [same]; rfl)]
        rfl

theorem decode_of_itemsOf {body : Bytes} {items : Items} (read : itemsOf body = .ok items) :
    decode body = statuses 0 items := by
  have read : Read.whole (itemsShape.read Read.depthLimit) body = .ok items := read
  rw [decode, read]

theorem decode_of_fault {body : Bytes} {fault : Fault} (read : itemsOf body = .error fault) :
    decode body = .error (.malformedResponse (fault.message body)) := by
  have read : Read.whole (itemsShape.read Read.depthLimit) body = .error fault := read
  rw [decode, read]

theorem statuses_single (start : Nat) (results : List (String × Result)) :
    statuses start (results.map fun result => [result]) = .ok (results.map (·.2.toStatus)) := by
  obtain ⟨others, same, read⟩ | ⟨position, item, here, notOne, -⟩ :=
    statuses_cases start (results.map fun result => [result])
  · rw [read, List.map_injective_iff.2 (fun _ _ => List.singleton_inj.1) same]
  · obtain ⟨result, -, rfl⟩ := List.mem_map.1 (List.mem_of_getElem? here)
    exact (notOne rfl).elim

/-- The first item that has no result, or several, is named. -/
theorem statuses_ambiguous {items : Items} {position : Nat} {item : List (String × Result)}
    (here : items[position]? = some item) (notOne : item.length ≠ 1)
    (first : ∀ before < position, ∀ earlier, items[before]? = some earlier → earlier.length = 1) :
    statuses 0 items =
      .error (.malformedResponse s!"item {position} should hold exactly one action") := by
  obtain ⟨results, rfl, -⟩ | ⟨position', item', here', notOne', first', fault⟩ :=
    statuses_cases 0 items
  · obtain ⟨result, -, rfl⟩ := List.mem_map.1 (List.mem_of_getElem? here)
    exact (notOne rfl).elim
  · obtain less | rfl | less := Nat.lt_trichotomy position position'
    · exact (notOne (first' position less item here)).elim
    · rw [fault, Nat.zero_add]
    · exact (notOne' (first position' less item' here')).elim

section Attempt

variable {batch : Batch} {body : Bytes} {e : TransportError}

theorem error_of_unusable (h : Unusable batch body e) :
    decode body >>= batch.reconcile = .error e := by
  cases h with
  | unreadable read =>
      rw [decode_of_fault read]
      rfl
  | ambiguous read here notOne first =>
      rw [decode_of_itemsOf read, statuses_ambiguous here notOne first]
      rfl
  | @miscounted items read each count =>
      rw [decode_of_itemsOf read]
      obtain ⟨results, rfl, single⟩ | ⟨position, item, here, notOne, -⟩ := statuses_cases 0 items
      · have other : (results.map (·.2.toStatus)).length ≠ batch.size := by simpa using count
        rw [single, ok_bind, Batch.reconcile_of_ne other]
        simp
      · exact (notOne (each item (List.mem_of_getElem? here))).elim

theorem attempt_cases (batch : Batch) (body : Bytes) :
    (∃ results : List (String × Result), itemsOf body = .ok (results.map fun result => [result]) ∧
      results.length = batch.size) ∨ ∃ e, Unusable batch body e := by
  cases read : itemsOf body with
  | error fault => exact .inr ⟨_, .unreadable read⟩
  | ok items =>
      obtain ⟨results, rfl, -⟩ | ⟨position, item, here, notOne, first, -⟩ := statuses_cases 0 items
      · by_cases count : results.length = batch.size
        · exact .inl ⟨results, rfl, count⟩
        · refine .inr ⟨_, .miscounted read (fun item mem => ?_) (by simpa using count)⟩
          obtain ⟨result, -, rfl⟩ := List.mem_map.1 mem
          rfl
      · exact .inr ⟨_, .ambiguous read here notOne first⟩

theorem ok_of_results {results : List (String × Result)}
    (read : itemsOf body = .ok (results.map fun result => [result]))
    (count : results.length = batch.size) :
    decode body >>= batch.reconcile =
      .ok (List.zipWith Outcome.ofStatus batch.refs (results.map (·.2.toStatus))) := by
  rw [decode_of_itemsOf read, statuses_single, ok_bind]
  exact Batch.reconcile_of_length (by rw [List.length_map, count])

theorem attempt_eq_ok_iff {outcomes : List Outcome} :
    decode body >>= batch.reconcile = .ok outcomes ↔
    ∃ results : List (String × Result), itemsOf body = .ok (results.map fun result => [result]) ∧
      results.length = batch.size ∧ Judged batch.refs results outcomes := by
  constructor
  · intro ended
    obtain ⟨results, read, count⟩ | ⟨e, unusable⟩ := attempt_cases batch body
    · refine ⟨results, read, count, (judged_iff (count.trans batch.length_refs.symm)).2 ?_⟩
      exact (Except.ok.inj ((ok_of_results read count).symm.trans ended)).symm
    · rw [error_of_unusable unusable] at ended
      contradiction
  · rintro ⟨results, read, count, judged⟩
    rw [ok_of_results read count, (judged_iff (count.trans batch.length_refs.symm)).1 judged]

theorem attempt_eq_error_iff :
    decode body >>= batch.reconcile = .error e ↔ Unusable batch body e := by
  refine ⟨fun ended => ?_, error_of_unusable⟩
  obtain ⟨results, read, count⟩ | ⟨e', unusable⟩ := attempt_cases batch body
  · rw [ok_of_results read count] at ended
    contradiction
  · rw [error_of_unusable unusable] at ended
    exact Except.error.inj ended ▸ unusable

end Attempt

/-- What the fields of a result say that are not null. -/
structure Restates (fields : Nat → Option Value) (result : Result) : Prop where
  id : result.id.map Value.string = (fields 0).filter (!·.isNull)
  status : ∃ v, fields 1 = some v ∧ Read.IsNatural 65535 v result.status
  error : result.error = (fields 2).filter (!·.isNull)

/-- What has been read into a draft. -/
structure Draft.Restates (fields : Nat → Option Value) (draft : Draft) : Prop where
  id : Option.Rel (Read.OrNull fun v s => v = .string s) (fields 0) draft.id
  status : Option.Rel (Read.IsNatural 65535) (fields 1) draft.status
  error : Option.Rel (Read.OrNull fun v e => v = e) (fields 2) draft.error

theorem map_of_rel {α β : Type} {f : β → α} {o : Option α} {p : Option β}
    (h : Option.Rel (fun a b => a = f b) o p) : o = p.map f := by
  cases h with
  | none => rfl
  | some same => exact congrArg some same

theorem follows_resultShape : resultShape.Follows Draft.Restates Restates where
  distinct := by decide
  start := ⟨.none, .none, .none⟩
  assign := by
    intro fields draft so depth i bound
    match i, bound with
    | 0, _ =>
        refine Read.agrees_text.optional.map (fun id => { draft with id := some id }) ?_
        exact fun v o fit => ⟨.some fit, so.status, so.error⟩
    | 1, _ =>
        refine (Read.agrees_natural 65535 "u16").map
          (fun status => { draft with status := some status }) ?_
        exact fun v o fit => ⟨so.id, .some fit, so.error⟩
    | 2, _ =>
        refine (Read.agrees_anyValue depth).optional.map
          (fun error => { draft with error := some error }) ?_
        exact fun v o fit => ⟨so.id, so.status, .some fit⟩
  complete := by
    intro fields draft result so complete
    cases status : draft.status with
    | none => simp [resultShape, status] at complete
    | some code =>
        obtain rfl : (⟨draft.id.getD none, code, draft.error.getD none⟩ : Result) = result := by
          simpa [resultShape, status] using complete
        have number := so.status
        rw [status] at number
        refine ⟨(map_of_rel (Read.OrNull.given so.id)).symm, ?_, ?_⟩
        · generalize fields 1 = field at number
          cases number with
          | some fit => exact ⟨_, rfl, fit⟩
        · exact ((map_of_rel (Read.OrNull.given so.error)).trans Option.map_id').symm

/-- What the value of an item says: a member for each entry, and under its name what the entry
restates. -/
def ItemFits (v : Value) (item : List (String × Result)) : Prop :=
  ∃ members, v = .object members ∧
    Read.MapFits (fun said result => Restates (said.fieldAt resultShape.names) result) members item

theorem follows_itemsShape : itemsShape.Follows
    (fun fields draft =>
      Option.Rel (fun v items => ∃ vs, v = .array vs ∧ List.Forall₂ ItemFits vs items)
        (fields 0) draft)
    (fun fields items => ∃ vs, fields 0 = some (.array vs) ∧ List.Forall₂ ItemFits vs items) where
  distinct := by decide
  start := .none
  assign := by
    intro fields draft so depth i bound
    match i, bound with
    | 0, _ =>
        have results : ∀ depth, Read.Agrees (Read.mapOf depth resultShape.read) ItemFits :=
          Read.Agrees.mapOf follows_resultShape.agrees
        refine (Read.Agrees.listOf results depth).map (fun items => some items) ?_
        exact fun v items fit => .some fit
  complete := by
    intro fields draft items so complete
    cases draft with
    | none => contradiction
    | some read =>
        obtain rfl := Except.ok.inj complete
        generalize fields 0 = field at so
        cases so with
        | some fit =>
            obtain ⟨vs, rfl, all⟩ := fit
            exact ⟨vs, rfl, all⟩

theorem nodup_names {body : Bytes} {items : Items} (read : itemsOf body = .ok items) :
    ∀ item ∈ items, (item.map (·.1)).Nodup := by
  have keeps : itemsShape.Keeps fun draft => ∀ items, draft = some items →
      ∀ item ∈ items, (item.map (·.1)).Nodup := by
    intro depth i draft draft' input rest _ assigned
    obtain ⟨⟨items, _⟩, found, same⟩ := map_eq_ok assigned
    obtain ⟨rfl, rfl⟩ := Prod.mk.inj same
    rintro _ ⟨⟩
    obtain ⟨behind, -, found⟩ := Read.listOf_cases found
    refine Read.forall_mem_items (fun input item rest one => ?_) found (List.forall_mem_nil _)
    obtain ⟨behind, -, one⟩ := Read.mapOf_cases one
    exact Read.nodup_of_entries one .nil
  obtain ⟨rest, read, -⟩ := Read.exists_of_whole read
  obtain ⟨draft, distinct, complete⟩ := keeps.read (fun _ never => nomatch never) read
  cases draft with
  | none => contradiction
  | some others =>
      obtain rfl := Except.ok.inj complete
      exact distinct others rfl

theorem fits_of_ofBytes {body : Bytes} {items : Items} {v : Value} (read : itemsOf body = .ok items)
    (value : Value.ofBytes body = .ok v) :
    ∃ vs, v.fieldAt itemsShape.names 0 = some (.array vs) ∧ List.Forall₂ ItemFits vs items :=
  (follows_itemsShape.agrees Read.depthLimit).whole value read

/-- The backend's own yes: a status in the two hundreds, and no error or null for one. -/
def SaysYes (v : Value) : Prop :=
  (∃ n : Whole, v.fieldAt resultShape.names 1 = some (.number (.whole n)) ∧
    200 ≤ n.value ∧ n.value < 300) ∧
    (v.fieldAt resultShape.names 2 = none ∨ v.fieldAt resultShape.names 2 = some .null)

theorem given_eq_none_iff {field : Option Value} :
    field.filter (!·.isNull) = none ↔ field = none ∨ field = some .null := by
  cases field with
  | none => simp
  | some v => cases v <;> simp [Option.filter_some, Value.isNull]

theorem isYes_iff_saysYes {v : Value} {result : Result}
    (h : Restates (v.fieldAt resultShape.names) result) : result.IsYes ↔ SaysYes v := by
  obtain ⟨-, ⟨_, status, n, rfl, same, -⟩, error⟩ := h
  rw [Result.IsYes, SaysYes, error, given_eq_none_iff, status, ← and_assoc]
  refine and_congr_left fun _ => ⟨fun ⟨least, most⟩ => ⟨n, rfl, by omega, by omega⟩, ?_⟩
  rintro ⟨m, number, least, most⟩
  obtain rfl : n = m := by simpa using number
  omega

theorem ItemFits.single {v : Value} {action : String} {result : Result}
    (h : ItemFits v [(action, result)]) :
    ∃ fields, v = .object [(action, fields)] ∧
      Restates (fields.fieldAt resultShape.names) result := by
  obtain ⟨members, rfl, sorted, perm, -, all⟩ := h
  obtain rfl := List.singleton_perm.1 perm
  cases all with
  | @cons member _ _ _ fit rest =>
      obtain ⟨_, fields⟩ := member
      obtain ⟨rfl, restates⟩ := fit
      cases rest
      exact ⟨fields, rfl, restates⟩

/-- Where the values of the items are known, each document is judged by the one in its own place. -/
theorem Judged.values {refs : List DocumentRef} {results : List (String × Result)}
    {outcomes : List Outcome}
    {vs : List Value} (h : Judged refs results outcomes) (count : results.length = refs.length)
    (all : List.Forall₂ ItemFits vs (results.map fun result => [result])) :
    vs.length = refs.length ∧ ∀ (i : Nat) (ref : DocumentRef) (outcome : Outcome),
      refs[i]? = some ref → outcomes[i]? = some outcome →
        ∃ action fields result, vs[i]? = some (.object [(action, fields)]) ∧
        Restates (fields.fieldAt resultShape.names) result ∧ (result.IsYes ↔ SaysYes fields) ∧
        result.Judges ref outcome := by
  have length : vs.length = results.length := all.length_eq.trans (List.length_map ..)
  refine ⟨length.trans count, fun i ref outcome atRef atOutcome => ?_⟩
  have inside : i < results.length := count ▸ (List.getElem?_eq_some_iff.1 atRef).1
  have fit := all.get (length.symm ▸ inside) (by simpa using inside)
  simp only [List.get_eq_getElem, List.getElem_map] at fit
  obtain ⟨fields, value, restates⟩ := fit.single
  refine ⟨results[i].1, fields, results[i].2, ?_, restates, isYes_iff_saysYes restates, ?_⟩
  · rw [List.getElem?_eq_getElem (length.symm ▸ inside), value]
    rfl
  · exact h.2 i ref _ _ outcome atRef (List.getElem?_eq_getElem inside) atOutcome

end BulkResponse

namespace HttpSink

open BulkResponse

variable {network : Network} {sink : HttpSink} {batch : Batch} {url : Url} {status : Nat}
    {body : Bytes}

theorem bulk_eq_decode (address : Http.address sink.bulkUrl = .ok url)
    (answered : network (sink.request url batch) = .response status body)
    (content : Http.isSuccess status = true) : sink.bulk network batch = decode body := by
  simp only [bulk, address, answered, interpret, if_pos content]

/-- An attempt as the retry loop sees it: what the backend says is held against the batch. -/
theorem conclude_bulk (policy : RetryPolicy) (stopped : Bool) (s : Submission) :
    s.conclude policy stopped ((SinkBackend.http sink).bulk network s.batch).1 =
      match sink.bulk network s.batch >>= s.batch.reconcile with
      | .ok outcomes => s.report outcomes .delivered
      | .error e => s.afterFailure policy stopped e := by
  simp only [SinkBackend.bulk]
  cases sink.bulk network s.batch with
  | error e => rfl
  | ok statuses =>
      have held : (Except.ok statuses >>= s.batch.reconcile) = s.batch.reconcile statuses := rfl
      simp only [Submission.conclude, SinkBackend.answerOf, Batch.reading, held]
      cases s.batch.reconcile statuses with
      | ok outcomes | error e => rfl

/-- Only the backend's own yes makes a document succeed. -/
theorem judged_by_answer (address : Http.address sink.bulkUrl = .ok url)
    (answered : network (sink.request url batch) = .response status body)
    (content : Http.isSuccess status = true) :
    let attempt := sink.bulk network batch >>= batch.reconcile
    (∀ outcomes, attempt = .ok outcomes ↔
      ∃ results : List (String × Result), itemsOf body = .ok (results.map fun result => [result]) ∧
        results.length = batch.size ∧ Judged batch.refs results outcomes) ∧
    (∀ e, attempt = .error e ↔ Unusable batch body e) ∧
    ∀ items, itemsOf body = .ok items → (∀ item ∈ items, (item.map (·.1)).Nodup) ∧
      ∀ v, Value.ofBytes body = .ok v →
        ∃ vs, v.fieldAt itemsShape.names 0 = some (.array vs) ∧ List.Forall₂ ItemFits vs items ∧
          ∀ outcomes, attempt = .ok outcomes → vs.length = batch.size ∧
            ∀ (i : Nat) (ref : DocumentRef) (outcome : Outcome), batch.refs[i]? = some ref →
              outcomes[i]? = some outcome →
                ∃ action fields result, vs[i]? = some (.object [(action, fields)]) ∧
                  Restates (fields.fieldAt resultShape.names) result ∧
                  (result.IsYes ↔ SaysYes fields) ∧ result.Judges ref outcome := by
  intro attempt
  have attempt_eq : attempt = decode body >>= batch.reconcile :=
    congrArg (· >>= batch.reconcile) (bulk_eq_decode address answered content)
  refine ⟨fun outcomes => attempt_eq ▸ attempt_eq_ok_iff,
    fun e => attempt_eq ▸ attempt_eq_error_iff,
    fun items read => ⟨nodup_names read, fun v value => ?_⟩⟩
  obtain ⟨vs, here, all⟩ := fits_of_ofBytes read value
  refine ⟨vs, here, all, fun outcomes ended => ?_⟩
  obtain ⟨results, read', count, judged⟩ := attempt_eq_ok_iff.1 (attempt_eq ▸ ended)
  obtain rfl := Except.ok.inj (read.symm.trans read')
  have refs := batch.length_refs
  rw [← refs]
  exact judged.values (count.trans refs.symm) all

def loopback : Url :=
  ⟨"http", some ⟨none, .ipv6 ⟨⟨#[0, 0, 0, 0, 0, 0, 0, 1], rfl⟩⟩, none⟩, "/_bulk", none, none⟩

def loopbackSink : HttpSink := ⟨"http://[::1]/_bulk", false, .ofSeconds 5⟩

theorem address_loopbackSink : Http.address loopbackSink.bulkUrl = .ok loopback := by
  have parsed : Url.parse loopbackSink.bulkUrl = .ok loopback := by cbv
  have requestable : Http.isRequestable loopback = true := by cbv
  have hosted : loopback.hasHost = true := by decide
  have same : loopback.withoutCredentials = loopback := rfl
  have web : loopback.scheme = "http" := rfl
  rw [Http.address, parsed]
  simp [hosted, same, web, requestable]

/-- One document is taken, the other one is not. -/
def halfHappyAnswer : Bytes :=
  Text.bytes ("\x7b\"items\":[\x7b\"index\":\x7b\"status\":201,\"error\":null\x7d\x7d," ++
    "\x7b\"create\":\x7b\"error\":\"late\",\"status\":409\x7d\x7d]\x7d")

def pairBatch : Batch :=
  .ofItems 1 [.make ⟨0, none⟩ .index "logs" none [], .make ⟨1, none⟩ .create "logs" none []]

theorem judged_by_answer_halfHappy :
    let attempt := loopbackSink.bulk (fun _ => .response 200 halfHappyAnswer) pairBatch >>=
      pairBatch.reconcile
    let outcomes : List Outcome :=
      [.success ⟨0, none⟩, .failed .documentRejected "409: late" ⟨1, none⟩]
    attempt = .ok outcomes ∧
      ∃ results : List (String × Result),
        itemsOf halfHappyAnswer = .ok (results.map fun result => [result]) ∧
        results.length = pairBatch.size ∧ Judged pairBatch.refs results outcomes := by
  intro attempt outcomes
  have content : Http.isSuccess 200 = true := rfl
  have decoded : decode halfHappyAnswer >>= pairBatch.reconcile = .ok outcomes := by cbv
  have ended : attempt = .ok outcomes :=
    (congrArg (· >>= pairBatch.reconcile) (bulk_eq_decode address_loopbackSink rfl content)).trans
      decoded
  exact ⟨ended, ((judged_by_answer address_loopbackSink rfl content).1 outcomes).1 ended⟩

end HttpSink

end BulkIngest
