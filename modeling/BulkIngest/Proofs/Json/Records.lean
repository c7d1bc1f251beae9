import Mathlib.Logic.Function.Basic
import BulkIngest.Proofs.Json.Shapes

/-!
A record is what the fields of a value say, whether the value is an object or a list. The fields are
read one by one into a draft; what the draft has to do with the fields so far is the invariant of
the reading.
-/

namespace BulkIngest.Json

/-- What a value holds in field `i` of a record whose fields are `names`. -/
def Value.fieldAt (names : List String) (v : Value) (i : Nat) : Option Value :=
  match v with
  | .object members => names[i]? >>= fun name => Entries.get? members name
  | .array elements => elements[i]?
  | _ => none

namespace Read

variable {α : Type} {fuel depth : Nat} {input rest left : Bytes} {v w : Value}
variable {names : List String} {done : Members} {name : String} {i : Nat}

theorem fieldAt_put_of_unknown (unknown : names.idxOf? name = none) :
    (Value.object (done.put name w)).fieldAt names = (Value.object done).fieldAt names := by
  have absent := List.idxOf?_eq_none_iff.1 unknown
  funext j
  simp only [Value.fieldAt]
  cases named : names[j]? with
  | none => rfl
  | some other =>
      have different : other ≠ name := fun same => absent (same ▸ List.mem_of_getElem? named)
      exact (Entries.get?_put name other w done).trans (if_neg different)

theorem fieldAt_put (distinct : names.Nodup) (known : names.idxOf? name = some i) :
    (Value.object (done.put name w)).fieldAt names =
      Function.update ((Value.object done).fieldAt names) i (some w) := by
  obtain ⟨bound, here, -⟩ := List.idxOf?_eq_some_iff.1 known
  funext j
  by_cases same : j = i
  · subst same
    rw [Function.update_self]
    simp [Value.fieldAt, bound, here, Entries.get?_put]
  · rw [Function.update_of_ne same]
    simp only [Value.fieldAt]
    cases named : names[j]? with
    | none => rfl
    | some other =>
        have different : other ≠ name := by
          rintro rfl
          obtain ⟨inside, there⟩ := List.getElem?_eq_some_iff.1 named
          exact same (distinct.getElem_inj_iff.1 (there.trans here.symm))
        exact (Entries.get?_put name other w done).trans (if_neg different)

theorem update_reverse {vs : List Value} (place : vs.length = i) :
    Function.update (fun j => vs.reverse[j]?) i (some w) = fun j => (w :: vs).reverse[j]? := by
  funext j
  by_cases same : j = i
  · subst same
    simp [← place]
  · rw [Function.update_of_ne same, List.reverse_cons]
    by_cases inside : j < vs.length
    · rw [List.getElem?_append_left (by simpa using inside)]
    · rw [List.getElem?_eq_none (by simpa using inside), List.getElem?_eq_none (by simp; omega)]

variable {δ : Type} {shape : RecordShape δ α} {draft : δ} {a : α} {calls levels : Nat}
    {first : Bool}

theorem fromObject_cases (h : shape.fromObject levels fuel first draft input = .ok (a, rest)) :
    ∃ calls, fuel = calls + 1 ∧
      ((∃ front, hasName first input = .ok (false, front) ∧ shape.complete draft = .ok a ∧
        endOfObject front = .ok rest) ∨
      ∃ front name between start left draft', hasName first input = .ok (true, front) ∧
        string front = .ok (name, between) ∧ colon between = .ok start ∧
        ((shape.names.idxOf? name = none ∧ ignored start = .ok ((), left) ∧ draft' = draft) ∨
          ∃ i, shape.names.idxOf? name = some i ∧
            shape.assign levels i draft start = .ok (draft', left)) ∧
        shape.fromObject levels calls false draft' left = .ok (a, rest)) := by
  cases fuel with
  | zero => rw [RecordShape.fromObject] at h; contradiction
  | succ calls =>
      refine ⟨calls, rfl, ?_⟩
      rw [RecordShape.fromObject] at h
      split at h
      · contradiction
      · rename_i ends
        split at h
        · rename_i complete
          obtain ⟨_, closed, same⟩ := map_eq_ok h
          obtain ⟨rfl, rfl⟩ := Prod.mk.inj same
          exact .inl ⟨_, ends, complete, closed⟩
        · contradiction
      · rename_i front more
        split at h
        · contradiction
        · rename_i name between named
          cases separated : colon between with
          | error fault =>
              simp only [separated] at h
              split at h
              · contradiction
              · split at h <;> contradiction
          | ok start =>
              simp only [separated, ok_bind] at h
              refine .inr ⟨front, name, between, start, ?_⟩
              split at h
              · rename_i unknown
                split at h
                · contradiction
                · rename_i passed
                  exact ⟨_, _, more, named, separated, .inl ⟨unknown, passed, rfl⟩, h⟩
              · rename_i known
                split at h
                · contradiction
                · split at h
                  · contradiction
                  · rename_i assigned
                    exact ⟨_, _, more, named, separated, .inr ⟨_, known, assigned⟩, h⟩

theorem fromList_nil (h : shape.fromList levels i draft input [] = .ok (a, rest)) :
    shape.complete draft = .ok a ∧ endOfList input = .ok rest := by
  rw [RecordShape.fromList] at h
  split at h
  · rename_i complete
    obtain ⟨_, closed, same⟩ := map_eq_ok h
    obtain ⟨rfl, rfl⟩ := Prod.mk.inj same
    exact ⟨complete, closed⟩
  · contradiction

theorem fromList_cons {remaining : List String}
    (h : shape.fromList levels i draft input (name :: remaining) = .ok (a, rest)) :
    ∃ front draft' behind, hasElement (i = 0) input = .ok (true, front) ∧
      shape.assign levels i draft front = .ok (draft', behind) ∧
      shape.fromList levels (i + 1) draft' behind remaining = .ok (a, rest) := by
  rw [RecordShape.fromList] at h
  split at h
  · contradiction
  · contradiction
  · rename_i front more
    split at h
    · contradiction
    · rename_i assigned
      exact ⟨front, _, _, more, assigned, h⟩

/-- A record is read from a list or from an object. -/
theorem RecordShape.read_cases (h : shape.read levels input = .ok (a, rest)) :
    ∃ behind, (skipBlanks input = 0x5B :: behind ∧
        shape.fromList (levels - 1) 0 shape.draft behind shape.names = .ok (a, rest)) ∨
      skipBlanks input = 0x7B :: behind ∧
        shape.fromObject (levels - 1) (fuelFor behind) true shape.draft behind = .ok (a, rest) := by
  rw [RecordShape.read] at h
  split at h
  · contradiction
  · rename_i b behind next
    split at h
    · rename_i bracket
      split at h
      · contradiction
      · exact ⟨behind, .inl ⟨by rw [next, bracket], h⟩⟩
    · split at h
      · rename_i brace
        split at h
        · contradiction
        · exact ⟨behind, .inr ⟨by rw [next, brace], h⟩⟩
      · exact (wrongType_ne_ok h).elim

namespace RecordShape

/-- Whatever is read into a draft, it stays so. -/
def Keeps (shape : RecordShape δ α) (so : δ → Prop) : Prop :=
  ∀ ⦃depth i : Nat⦄ ⦃draft draft' : δ⦄ ⦃input rest : Bytes⦄, so draft →
    shape.assign depth i draft input = .ok (draft', rest) → so draft'

variable {so : δ → Prop}

theorem Keeps.fromObject (keeps : shape.Keeps so) (now : so draft)
    (found : shape.fromObject levels fuel first draft input = .ok (a, rest)) :
    ∃ last, so last ∧ shape.complete last = .ok a := by
  induction fuel generalizing first draft input with
  | zero => rw [RecordShape.fromObject] at found; contradiction
  | succ fuel ih =>
      obtain ⟨_, less, ⟨_, -, complete, -⟩ | ⟨_, _, _, _, _, _, -, -, -, assigned, later⟩⟩ :=
        fromObject_cases found
      · exact ⟨draft, now, complete⟩
      · obtain rfl := Nat.succ.inj less
        obtain ⟨-, -, rfl⟩ | ⟨_, -, assigned⟩ := assigned
        · exact ih now later
        · exact ih (keeps now assigned) later

theorem Keeps.fromList (keeps : shape.Keeps so) (now : so draft) {remaining : List String}
    (found : shape.fromList levels i draft input remaining = .ok (a, rest)) :
    ∃ last, so last ∧ shape.complete last = .ok a := by
  induction remaining generalizing i draft input with
  | nil => exact ⟨draft, now, (fromList_nil found).1⟩
  | cons name remaining ih =>
      obtain ⟨_, _, _, -, assigned, later⟩ := fromList_cons found
      exact ih (keeps now assigned) later

/-- What holds of the first draft, and stays so, holds of the draft that becomes the record. -/
theorem Keeps.read (keeps : shape.Keeps so) (start : so shape.draft)
    (found : shape.read levels input = .ok (a, rest)) :
    ∃ last, so last ∧ shape.complete last = .ok a := by
  obtain ⟨_, ⟨-, found⟩ | ⟨-, found⟩⟩ := read_cases found
  · exact keeps.fromList start found
  · exact keeps.fromObject start found

end RecordShape

/-- How a record under construction follows from the fields that were read so far, and the record
from all of its fields. -/
structure RecordShape.Follows (shape : RecordShape δ α) (drafts : (Nat → Option Value) → δ → Prop)
    (fits : (Nat → Option Value) → α → Prop) : Prop where
  distinct : shape.names.Nodup
  start : drafts (fun _ => none) shape.draft
  assign : ∀ {fields : Nat → Option Value} {draft : δ}, drafts fields draft →
    ∀ depth, ∀ i < shape.names.length, Agrees (shape.assign depth i draft) fun v draft' =>
      drafts (Function.update fields i (some v)) draft'
  complete : ∀ {fields : Nat → Option Value} {draft : δ} {a : α}, drafts fields draft →
    shape.complete draft = .ok a → fits fields a

namespace RecordShape.Follows

variable {drafts : (Nat → Option Value) → δ → Prop} {fits : (Nat → Option Value) → α → Prop}

theorem fromObject (h : shape.Follows drafts fits)
    (so : drafts ((Value.object done).fieldAt shape.names) draft)
    (read : members fuel depth first done input = .ok (v, rest))
    (found : shape.fromObject levels calls first draft input = .ok (a, left)) :
    left = rest ∧ fits (v.fieldAt shape.names) a := by
  induction fuel generalizing calls first done draft input with
  | zero => rw [members] at read; contradiction
  | succ fuel ih =>
      obtain ⟨_, less,
        ⟨-, ends, rfl⟩ | ⟨front, name, between, start, w, behind, more, named, separated, member,
          later⟩⟩ := members_cases read <;>
        obtain rfl := Nat.succ.inj less <;>
        obtain ⟨_, -, ⟨front', ends', complete, closed⟩ | ⟨front', name', between', start', behind',
          draft', more', named', separated', assigned, later'⟩⟩ := fromObject_cases found
      · obtain rfl : 0x7D :: rest = front' := by simpa [ends] using ends'
        rw [endOfObject_closing] at closed
        exact ⟨(Except.ok.inj closed).symm, h.complete so complete⟩
      · simp [ends] at more'
      · simp [more] at ends'
      · obtain rfl : front = front' := by simpa [more] using more'
        obtain ⟨rfl, rfl⟩ : name = name' ∧ between = between' := by simpa [named] using named'
        obtain rfl : start = start' := by simpa [separated] using separated'
        obtain ⟨unknown, passed, rfl⟩ | ⟨i, known, assigned⟩ := assigned
        · obtain rfl := ignored_of_value member passed
          rw [← fieldAt_put_of_unknown unknown] at so
          exact ih so later later'
        · obtain ⟨bound, -⟩ := List.idxOf?_eq_some_iff.1 known
          obtain ⟨rfl, so⟩ := h.assign so levels i bound member assigned
          rw [← fieldAt_put h.distinct known] at so
          exact ih so later later'

theorem fromList (h : shape.Follows drafts fits) {vs : List Value} {remaining : List String}
    (so : drafts (fun j => vs.reverse[j]?) draft)
    (read : elements fuel depth (i = 0) vs input = .ok (v, rest)) (place : vs.length = i)
    (missing : i + remaining.length = shape.names.length)
    (found : shape.fromList levels i draft input remaining = .ok (a, left)) :
    left = rest ∧ fits (v.fieldAt shape.names) a := by
  induction remaining generalizing fuel i draft vs input with
  | nil =>
      obtain ⟨complete, closed⟩ := fromList_nil found
      have ends : hasElement (i = 0) input = .ok (false, 0x5D :: left) :=
        hasElement_of_endOfList closed
      obtain ⟨_, -, ⟨-, ends', rfl⟩ | ⟨_, _, _, more, -⟩⟩ := elements_cases read
      · rw [ends] at ends'
        exact ⟨by simpa using ends', h.complete so complete⟩
      · simp [ends] at more
  | cons name remaining ih =>
      obtain ⟨front, draft', behind, more, assigned, found⟩ := fromList_cons found
      obtain ⟨_, -, ⟨-, ends, -⟩ | ⟨front', w, behind', more', element, later⟩⟩ :=
        elements_cases read
      · simp [more] at ends
      · obtain rfl : front = front' := by simpa [more] using more'
        rw [List.length_cons] at missing
        obtain ⟨rfl, so'⟩ := h.assign so levels i (by omega) element assigned
        rw [update_reverse place] at so'
        exact ih so' later (by simp [place]) (by omega) found

theorem agrees (h : shape.Follows drafts fits) (levels : Nat) :
    Agrees (shape.read levels) fun v a => fits (v.fieldAt shape.names) a := by
  intro fuel depth input rest left v a read found
  obtain ⟨calls, -, begins⟩ := begins_of_value read
  obtain ⟨behind, ⟨next, found⟩ | ⟨next, found⟩⟩ :=
    RecordShape.read_cases found <;> rw [next] at begins
  · obtain ⟨_, ends⟩ := begins.list_eq
    have so : drafts (fun j => ([] : List Value).reverse[j]?) shape.draft := by simpa using h.start
    exact h.fromList so ends rfl (Nat.zero_add _) found
  · obtain ⟨_, ends⟩ := begins.object_eq
    have nothing : (Value.object []).fieldAt shape.names = fun _ => none := by
      funext i
      cases named : shape.names[i]? <;> simp [Value.fieldAt, Entries.get?, named]
    exact h.fromObject (nothing ▸ h.start) ends found

end RecordShape.Follows

end Read

end BulkIngest.Json
