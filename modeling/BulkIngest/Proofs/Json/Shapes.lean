import Mathlib.Data.List.Forall2
import Mathlib.Data.List.Nodup
import BulkIngest.Proofs.Json.Skipping

/-!
Data of a known shape is what the value in the same octets stands for. Where octets can be read as
a value and as data of a shape, both readers stop at the same place, and the data follows from the
value: a record from its fields, a list from its elements, a map from the members of an object.
-/

namespace BulkIngest

namespace Entries

variable {α β : Type} {name : String}

theorem mem_put {entries : Entries α} {a : α} {entry : String × α}
    (h : entry ∈ put name a entries) :
    entry = (name, a) ∨ entry ∈ entries := by
  induction entries with
  | nil => exact .inl (List.mem_singleton.1 h)
  | cons first rest ih =>
      obtain ⟨n, v⟩ := first
      rw [put] at h
      split at h
      · exact List.mem_cons.1 h
      · split at h
        · exact (List.mem_cons.1 h).imp_right (List.mem_cons_of_mem _)
        · obtain rfl | later := List.mem_cons.1 h
          · exact .inr List.mem_cons_self
          · exact (ih later).imp_right (List.mem_cons_of_mem _)

theorem ascending_put {entries : Entries α} (ascending : entries.Pairwise (·.1 < ·.1)) (a : α) :
    (put name a entries).Pairwise (·.1 < ·.1) := by
  induction entries with
  | nil => exact List.pairwise_singleton _ _
  | cons first rest ih =>
      obtain ⟨n, v⟩ := first
      obtain ⟨behind, later⟩ := List.pairwise_cons.1 ascending
      rw [put]
      split
      · rename_i before
        refine List.pairwise_cons.2 ⟨fun entry mem => ?_, ascending⟩
        obtain rfl | mem := List.mem_cons.1 mem
        · exact before
        · exact String.lt_trans before (behind entry mem)
      · split
        · rename_i same
          exact List.pairwise_cons.2 ⟨fun entry mem => same ▸ behind entry mem, later⟩
        · rename_i notBefore different
          have after : n < name := Std.lt_of_le_of_ne (String.not_lt.1 notBefore)
            (Ne.symm different)
          refine List.pairwise_cons.2 ⟨fun entry mem => ?_, ih later⟩
          obtain rfl | mem := mem_put mem
          · exact after
          · exact behind entry mem

theorem filter_of_before {entries : Entries α} (before : ∀ entry ∈ entries, name < entry.1) :
    entries.filter (·.1 ≠ name) = entries :=
  List.filter_eq_self.2 fun entry mem => by
    have different : entry.1 ≠ name := fun same => String.lt_irrefl name (same ▸ before entry mem)
    simpa using different

/-- A value takes the place of the one of the same name. -/
theorem perm_put {entries : Entries α} (ascending : entries.Pairwise (·.1 < ·.1)) (a : α) :
    (put name a entries).Perm ((name, a) :: entries.filter (·.1 ≠ name)) := by
  induction entries with
  | nil => exact .refl _
  | cons first rest ih =>
      obtain ⟨n, v⟩ := first
      obtain ⟨behind, later⟩ := List.pairwise_cons.1 ascending
      rw [put]
      split
      · rename_i before
        have all : ∀ entry ∈ (n, v) :: rest, name < entry.1 := by
          intro entry mem
          obtain rfl | mem := List.mem_cons.1 mem
          · exact before
          · exact String.lt_trans before (behind entry mem)
        rw [filter_of_before all]
      · split
        · rename_i same
          subst same
          rw [List.filter_cons_of_neg (by simp), filter_of_before behind]
        · rename_i notBefore different
          rw [List.filter_cons_of_pos (by simpa using Ne.symm different)]
          exact ((ih later).cons (n, v)).trans (.swap ..)

theorem forall₂_put {fits : α → β → Prop} {entries : Entries α} {others : Entries β}
    (h : List.Forall₂ (fun entry other => entry.1 = other.1 ∧ fits entry.2 other.2) entries others)
    {a : α} {b : β}
    (said : fits a b) :
    List.Forall₂ (fun entry other => entry.1 = other.1 ∧ fits entry.2 other.2) (put name a entries)
      (put name b others) := by
  induction h with
  | nil => exact .cons ⟨rfl, said⟩ .nil
  | @cons entry other entries others same rest ih =>
      obtain ⟨n, v⟩ := entry
      obtain ⟨_, w⟩ := other
      obtain ⟨rfl, alike⟩ := same
      simp only [put]
      split
      · exact .cons ⟨rfl, said⟩ (.cons ⟨rfl, alike⟩ rest)
      · split
        · exact .cons ⟨rfl, said⟩ rest
        · exact .cons ⟨rfl, alike⟩ ih

end Entries

namespace Json

namespace Read

/-- However many calls and levels of nesting a value may take, it is the same one. -/
structure Unique (fuel : Nat) : Prop where
  value : ∀ {depth : Nat} {input rest : Bytes} {v : Value}, value fuel depth input = .ok (v, rest) →
    ∀ {calls levels : Nat} {w : Value} {left : Bytes},
    Read.value calls levels input = .ok (w, left) → w = v ∧ left = rest
  elements : ∀ {depth : Nat} {first : Bool} {done : List Value} {input rest : Bytes} {v : Value},
    elements fuel depth first done input = .ok (v, rest) →
    ∀ {calls levels : Nat} {w : Value} {left : Bytes},
    Read.elements calls levels first done input = .ok (w, left) → w = v ∧ left = rest
  members : ∀ {depth : Nat} {first : Bool} {done : Members} {input rest : Bytes} {v : Value},
    members fuel depth first done input = .ok (v, rest) →
    ∀ {calls levels : Nat} {w : Value} {left : Bytes},
    Read.members calls levels first done input = .ok (w, left) → w = v ∧ left = rest

variable {fuel depth : Nat} {input rest left : Bytes} {v w : Value}

theorem Unique.begins (h : Unique fuel) {octets : Bytes} (one : Begins fuel depth octets v rest)
    (start : skipBlanks input = octets) {calls levels : Nat}
    (other : Read.value calls levels input = .ok (w, left)) : w = v ∧ left = rest := by
  cases calls with
  | zero => rw [Read.value] at other; contradiction
  | succ calls =>
      rw [Read.value, start] at other
      cases one with
      | null ends | yes ends | no ends | negative ends =>
          simpa [ends, Except.map, eq_comm] using other
      | positive digit ends =>
          obtain ⟨-, noNull, noTrue, noFalse, noMinus, -⟩ := digit_distinct digit
          simpa [noNull, noTrue, noFalse, noMinus, digit, ends, Except.map, eq_comm] using other
      | string ends => simpa [digit?, ends, Except.map, eq_comm] using other
      | list ends =>
          simp [digit?] at other
          split at other
          · contradiction
          · contradiction
          · exact h.elements ends other
      | object ends =>
          simp [digit?] at other
          split at other
          · contradiction
          · contradiction
          · exact h.members ends other

theorem Unique.elements_succ (h : Unique fuel) {first : Bool} {done : List Value}
    {calls levels : Nat} (one : Read.elements (fuel + 1) depth first done input = .ok (v, rest))
    (other : Read.elements calls levels first done input = .ok (w, left)) :
    w = v ∧ left = rest := by
  obtain ⟨_, less, ⟨-, ends, rfl⟩ | ⟨front, u, behind, more, element, later⟩⟩ :=
    elements_cases one <;>
    obtain rfl := Nat.succ.inj less <;>
    obtain ⟨_, -, ⟨-, ends', rfl⟩ | ⟨front', u', behind', more', element', later'⟩⟩ :=
      elements_cases other
  · simpa [ends] using ends'.symm
  · simp [ends] at more'
  · simp [more] at ends'
  · obtain rfl : front = front' := by simpa [more] using more'
    obtain ⟨rfl, rfl⟩ := h.value element element'
    exact h.elements later later'

theorem Unique.members_succ (h : Unique fuel) {first : Bool} {done : Members} {calls levels : Nat}
    (one : Read.members (fuel + 1) depth first done input = .ok (v, rest))
    (other : Read.members calls levels first done input = .ok (w, left)) : w = v ∧ left = rest := by
  obtain ⟨_, less, ⟨-, ends, rfl⟩ |
      ⟨front, name, between, start, u, behind, more, named, separated, member, later⟩⟩ :=
    members_cases one <;>
    obtain rfl := Nat.succ.inj less <;>
    obtain ⟨_, -, ⟨-, ends', rfl⟩ |
        ⟨front', name', between', start', u', behind', more', named', separated', member',
          later'⟩⟩ :=
      members_cases other
  · simpa [ends] using ends'.symm
  · simp [ends] at more'
  · simp [more] at ends'
  · obtain rfl : front = front' := by simpa [more] using more'
    obtain ⟨rfl, rfl⟩ : name = name' ∧ between = between' := by simpa [named] using named'
    obtain rfl : start = start' := by simpa [separated] using separated'
    obtain ⟨rfl, rfl⟩ := h.value member member'
    exact h.members later later'

theorem unique (fuel : Nat) : Unique fuel := by
  induction fuel with
  | zero =>
      refine ⟨fun read => ?_, fun read => ?_, fun read => ?_⟩
      · obtain ⟨_, never, -⟩ := begins_of_value read
        contradiction
      · obtain ⟨_, never, -⟩ := elements_cases read
        contradiction
      · obtain ⟨_, never, -⟩ := members_cases read
        contradiction
  | succ fuel ih =>
      refine ⟨fun read _ _ _ _ other => ?_, fun read _ _ _ _ => ih.elements_succ read,
        fun read _ _ _ _ => ih.members_succ read⟩
      obtain ⟨_, less, begins⟩ := begins_of_value read
      obtain rfl := Nat.succ.inj less
      exact ih.begins begins rfl other

/-- Whatever the reader makes of octets that hold a value, it makes of that value. -/
def Agrees {α : Type} (reader : Reader α) (fits : Value → α → Prop) : Prop :=
  ∀ ⦃fuel depth : Nat⦄ ⦃input rest left : Bytes⦄ ⦃v : Value⦄ ⦃a : α⦄,
    value fuel depth input = .ok (v, rest) → reader input = .ok (a, left) → left = rest ∧ fits v a

variable {α : Type}

theorem Agrees.map {β : Type} {reader : Reader α} {fits : Value → α → Prop}
    {fits' : Value → β → Prop} (f : α → β) (h : Agrees reader fits)
    (onward : ∀ v a, fits v a → fits' v (f a)) :
    Agrees (fun input => (reader input).map fun (a, rest) => (f a, rest)) fits' := by
  intro fuel depth input rest left v b read found
  obtain ⟨⟨a, _⟩, inside, same⟩ := map_eq_ok found
  obtain ⟨rfl, rfl⟩ := Prod.mk.inj same
  obtain ⟨here, fit⟩ := h read inside
  exact ⟨here, onward v a fit⟩

/-- A value of another kind is never taken. -/
theorem wrongType_ne_ok {expected : String} {a : α × Bytes} : wrongType expected input ≠ .ok a := by
  have never (found : Except Fault (Found × Bytes)) :
      (found >>= fun read =>
        (fail (.invalidType read.1 expected) read.2 : Except Fault (α × Bytes))) ≠
        .ok a := by
    cases found <;> simp [bind, Except.bind, fail]
  cases input with
  | nil => simp [wrongType, failNext]
  | cons b rest =>
      rw [wrongType]
      -- every kind of value is named in the fault
      split_ifs <;> first | exact never _ | simp [fail, failNext]

theorem agrees_anyValue (depth : Nat) : Agrees (anyValue depth) fun v a => v = a := by
  intro fuel levels input rest left v a one other
  obtain ⟨rfl, rfl⟩ := (unique _).value one other
  exact ⟨rfl, rfl⟩

theorem agrees_text : Agrees text fun v s => v = .string s := by
  intro fuel depth input rest left v s read found
  obtain ⟨calls, -, begins⟩ := begins_of_value read
  rw [text] at found
  split at found
  · contradiction
  · rename_i b behind next
    rw [next] at begins
    split at found
    · rename_i quote
      subst quote
      obtain ⟨_, ends, rfl⟩ := begins.string_eq
      simpa [ends, eq_comm, and_comm] using found
    · exact (wrongType_ne_ok found).elim

/-- The value is a whole number from zero up to `max`. -/
def IsNatural (max : Nat) (v : Value) (n : Nat) : Prop :=
  ∃ whole : Whole, v = .number (.whole whole) ∧ whole.value = n ∧ n ≤ max

theorem isNatural_of_bounded {max n : Nat} {problem : Problem} {whole : Whole}
    (h : (if 0 ≤ whole.value ∧ whole.value.toNat ≤ max then .ok (whole.value.toNat, rest)
      else fail problem rest) = Except.ok (n, left)) :
    left = rest ∧ IsNatural max (.number (.whole whole)) n := by
  split at h
  · rename_i fits
    obtain ⟨rfl, rfl⟩ := Prod.mk.inj (Except.ok.inj h)
    exact ⟨rfl, whole, rfl, (Int.toNat_of_nonneg fits.1).symm, fits.2⟩
  · contradiction

theorem agrees_natural (max : Nat) (expected : String) :
    Agrees (natural max expected) (IsNatural max) := by
  intro fuel depth input rest left v n read found
  obtain ⟨calls, -, begins⟩ := begins_of_value read
  simp only [natural] at found
  generalize skipBlanks input = octets at begins found
  cases begins with
  | @negative _ _ _ number ends =>
      simp only [if_true, ends, ok_bind] at found
      cases number with
      | float x => contradiction
      | whole whole => exact isNatural_of_bounded found
  | @positive _ _ _ _ number digit ends =>
      obtain ⟨-, -, -, -, noMinus, -⟩ := digit_distinct digit
      simp only [if_neg noMinus, if_pos digit, ends, ok_bind] at found
      cases number with
      | float x => contradiction
      | whole whole => exact isNatural_of_bounded found
  | _ => simp [digit?, wrongType_ne_ok] at found

theorem optional_cases {inner : Reader α} {o : Option α}
    (h : optional inner input = .ok (o, left)) :
    (∃ behind, skipBlanks input = 0x6E :: behind ∧ o = none ∧ word wordNull behind = .ok left) ∨
    (∀ behind, skipBlanks input ≠ 0x6E :: behind) ∧
      ∃ a, o = some a ∧ inner (skipBlanks input) = .ok (a, left) := by
  rw [optional] at h
  split at h
  · rename_i behind next
    obtain ⟨_, ends, same⟩ := map_eq_ok h
    obtain ⟨rfl, rfl⟩ := Prod.mk.inj same
    exact .inl ⟨behind, next, rfl, ends⟩
  · rename_i noNull
    obtain ⟨⟨a, _⟩, read, same⟩ := map_eq_ok h
    obtain ⟨rfl, rfl⟩ := Prod.mk.inj same
    exact .inr ⟨noNull, a, rfl, read⟩

theorem Begins.eq_null_iff (h : Begins fuel depth input v rest) :
    v = .null ↔ ∃ behind, input = 0x6E :: behind := by
  cases h with
  | positive digit _ => simp [(digit_distinct digit).2.1]
  | list ends =>
      obtain ⟨_, rfl⟩ := elements_array ends
      simp
  | object ends =>
      obtain ⟨_, rfl⟩ := members_object ends
      simp
  | _ => simp

theorem value_skipBlanks (h : value fuel depth input = .ok (v, rest)) :
    value fuel depth (skipBlanks input) = .ok (v, rest) := by
  cases fuel with
  | zero => rw [value] at h; contradiction
  | succ fuel =>
      rw [value] at h ⊢
      rwa [skipBlanks_skipBlanks]

/-- Null stands for nothing, and every other value for what it fits. -/
def OrNull (fits : Value → α → Prop) (v : Value) (o : Option α) : Prop :=
  (v = .null ∧ o = none) ∨ v ≠ .null ∧ ∃ a, o = some a ∧ fits v a

/-- A field that is absent says as little as one that is null. -/
theorem OrNull.given {fits : Value → α → Prop} {field : Option Value} {o : Option (Option α)}
    (h : Option.Rel (OrNull fits) field o) :
    Option.Rel fits (field.filter (!·.isNull)) (o.getD none) := by
  cases h with
  | none => exact .none
  | @some v o fit =>
      obtain ⟨rfl, rfl⟩ | ⟨other, a, rfl, fit⟩ := fit
      · exact .none
      · have given : v.isNull = false := by
          cases v with
          | null => exact (other rfl).elim
          | _ => rfl
        rw [Option.filter_some, given]
        exact .some fit

theorem Agrees.optional {inner : Reader α} {fits : Value → α → Prop} (h : Agrees inner fits) :
    Agrees (optional inner) (OrNull fits) := by
  intro fuel depth input rest left v o read found
  obtain ⟨calls, -, begins⟩ := begins_of_value read
  obtain ⟨behind, next, rfl, ends⟩ | ⟨noNull, a, rfl, inside⟩ := optional_cases found
  · obtain rfl := begins.eq_null_iff.2 ⟨behind, next⟩
    rw [next] at begins
    cases begins with
    | null ends' => exact ⟨Except.ok.inj (ends.symm.trans ends'), .inl ⟨rfl, rfl⟩⟩
  · obtain ⟨same, said⟩ := h (value_skipBlanks read) inside
    refine ⟨same, .inr ⟨fun null => ?_, a, rfl, said⟩⟩
    obtain ⟨behind, next⟩ := begins.eq_null_iff.1 null
    exact noNull behind next

/-- Data that a whole text was read as fits the value of the text. -/
theorem Agrees.whole {reader : Reader α} {fits : Value → α → Prop} (h : Agrees reader fits) {a : α}
    (read : Value.ofBytes input = .ok v) (found : whole reader input = .ok a) : fits v a := by
  have whole : Read.whole (value (fuelFor input) depthLimit) input = .ok v := read
  obtain ⟨rest, read, -⟩ := exists_of_whole whole
  obtain ⟨left, found, -⟩ := exists_of_whole found
  exact (h read found).2

section Parts

variable {item : Reader α} {fits : Value → α → Prop} {first : Bool}

theorem items_cases {done as : List α} (h : items item fuel first done input = .ok (as, rest)) :
    ∃ calls, fuel = calls + 1 ∧
      ((∃ front, hasElement first input = .ok (false, front) ∧ endOfList front = .ok rest ∧
        as = done.reverse) ∨
      ∃ front a left, hasElement first input = .ok (true, front) ∧ item front = .ok (a, left) ∧
        items item calls false (a :: done) left = .ok (as, rest)) := by
  cases fuel with
  | zero => rw [items] at h; contradiction
  | succ calls =>
      refine ⟨calls, rfl, ?_⟩
      rw [items] at h
      split at h
      · contradiction
      · rename_i ends
        obtain ⟨_, closed, same⟩ := map_eq_ok h
        obtain ⟨rfl, rfl⟩ := Prod.mk.inj same
        exact .inl ⟨_, ends, closed, rfl⟩
      · rename_i front more
        split at h
        · contradiction
        · rename_i element
          exact .inr ⟨front, _, _, more, element, h⟩

/-- The items of a list are what its elements say, one for one. -/
theorem Agrees.items (h : Agrees item fits) {calls : Nat} {done : List Value} {taken as : List α}
    (read : elements fuel depth first done input = .ok (v, rest))
    (found : items item calls first taken input = .ok (as, left)) :
    left = rest ∧ ∃ vs bs, v = .array (done.reverse ++ vs) ∧ as = taken.reverse ++ bs ∧
      List.Forall₂ fits vs bs := by
  induction fuel generalizing calls first done taken input with
  | zero => rw [elements] at read; contradiction
  | succ fuel ih =>
      obtain ⟨_, less, ⟨-, ends, rfl⟩ | ⟨front, w, behind, more, element, later⟩⟩ :=
        elements_cases read <;>
        obtain rfl := Nat.succ.inj less <;>
        obtain ⟨_, -, ⟨front', ends', closed, rfl⟩ |
            ⟨front', a, behind', more', element', later'⟩⟩ :=
          items_cases found
      · obtain rfl : 0x5D :: rest = front' := by simpa [ends] using ends'
        rw [endOfList_closing] at closed
        exact ⟨(Except.ok.inj closed).symm, [], [], by simp, by simp, .nil⟩
      · simp [ends] at more'
      · simp [more] at ends'
      · obtain rfl : front = front' := by simpa [more] using more'
        obtain ⟨rfl, fit⟩ := h element element'
        obtain ⟨same, vs, bs, rfl, rfl, all⟩ := ih later later'
        exact ⟨same, w :: vs, a :: bs, by simp, by simp, .cons fit all⟩

/-- What holds of everything that the reader of an item gives holds of the items of a list. -/
theorem forall_mem_items {calls : Nat} {holds : α → Prop} {taken as : List α}
    (each : ∀ ⦃input a rest⦄, item input = .ok (a, rest) → holds a)
    (found : items item calls first taken input = .ok (as, left)) (before : ∀ a ∈ taken, holds a) :
    ∀ a ∈ as, holds a := by
  induction calls generalizing first taken input with
  | zero => rw [Read.items] at found; contradiction
  | succ calls ih =>
      obtain ⟨_, less, ⟨_, -, -, rfl⟩ | ⟨_, a, _, -, element, later⟩⟩ := items_cases found
      · simpa using before
      · obtain rfl := Nat.succ.inj less
        exact ih later (List.forall_mem_cons.2 ⟨each element, before⟩)

theorem listOf_cases {item : Nat → Reader α} {levels : Nat} {as : List α}
    (h : listOf levels item input = .ok (as, rest)) :
    ∃ behind, skipBlanks input = 0x5B :: behind ∧
      items (item (levels - 1)) (fuelFor behind) true [] behind = .ok (as, rest) := by
  rw [listOf] at h
  split at h
  · contradiction
  · rename_i b behind next
    split at h
    · rename_i bracket
      split at h
      · contradiction
      · exact ⟨behind, by rw [next, bracket], h⟩
    · exact (wrongType_ne_ok h).elim

theorem Agrees.listOf {item : Nat → Reader α} (h : ∀ depth, Agrees (item depth) fits)
    (levels : Nat) :
    Agrees (listOf levels item) fun v as => ∃ vs, v = .array vs ∧ List.Forall₂ fits vs as := by
  intro fuel depth input rest left v as read found
  obtain ⟨calls, -, begins⟩ := begins_of_value read
  obtain ⟨behind, next, found⟩ := listOf_cases found
  rw [next] at begins
  obtain ⟨_, ends⟩ := begins.list_eq
  obtain ⟨same, vs, bs, rfl, rfl, all⟩ := (h _).items ends found
  exact ⟨same, vs, rfl, all⟩

theorem entries_cases {done es : List (String × α)}
    (h : entries item fuel first done input = .ok (es, rest)) :
    ∃ calls, fuel = calls + 1 ∧
      ((∃ front, hasName first input = .ok (false, front) ∧ endOfObject front = .ok rest ∧
        es = done.reverse) ∨
      ∃ front name between start a left, hasName first input = .ok (true, front) ∧
        string front = .ok (name, between) ∧ colon between = .ok start ∧
          item start = .ok (a, left) ∧
        entries item calls false ((name, a) :: done.filter (·.1 ≠ name)) left =
          .ok (es, rest)) := by
  cases fuel with
  | zero => rw [entries] at h; contradiction
  | succ calls =>
      refine ⟨calls, rfl, ?_⟩
      rw [entries] at h
      split at h
      · contradiction
      · rename_i ends
        obtain ⟨_, closed, same⟩ := map_eq_ok h
        obtain ⟨rfl, rfl⟩ := Prod.mk.inj same
        exact .inl ⟨_, ends, closed, rfl⟩
      · rename_i front more
        split at h
        · contradiction
        · rename_i between named
          cases separated : colon between with
          | error fault => simp [separated, bind, Except.bind] at h
          | ok start =>
              rw [separated, ok_bind] at h
              split at h
              · contradiction
              · rename_i member
                exact .inr ⟨front, _, between, start, _, _, more, named, separated, member, h⟩

/-- A name is given once among the entries of an object. -/
theorem nodup_of_entries {calls : Nat} {done es : List (String × α)}
    (found : entries item calls first done input = .ok (es, left))
    (distinct : (done.map (·.1)).Nodup) :
    (es.map (·.1)).Nodup := by
  induction calls generalizing first done input with
  | zero => rw [entries] at found; contradiction
  | succ calls ih =>
      obtain ⟨_, less, ⟨_, -, -, rfl⟩ | ⟨_, name, _, _, a, _, -, -, -, -, later⟩⟩ :=
        entries_cases found
      · rw [List.map_reverse]
        exact List.nodup_reverse.2 distinct
      · obtain rfl := Nat.succ.inj less
        refine ih later (List.nodup_cons.2 ⟨by simp, ?_⟩)
        exact distinct.sublist ((List.filter_sublist).map _)

/-- The entries of a map are what the members of an object say, whatever their order. -/
def MapFits (fits : Value → α → Prop) (members : Members) (es : List (String × α)) : Prop :=
  ∃ sorted, es.Perm sorted ∧ sorted.Pairwise (·.1 < ·.1) ∧
    List.Forall₂ (fun member entry => member.1 = entry.1 ∧ fits member.2 entry.2) members sorted

theorem MapFits.put {names : Members} {es : List (String × α)} (h : MapFits fits names es)
    {name : String} {a : α} (fit : fits w a) :
    MapFits fits (names.put name w) ((name, a) :: es.filter (·.1 ≠ name)) := by
  obtain ⟨sorted, perm, ascending, all⟩ := h
  exact ⟨Entries.put name a sorted,
    ((perm.filter _).cons (name, a)).trans (Entries.perm_put ascending a).symm,
    Entries.ascending_put ascending a, Entries.forall₂_put all fit⟩

theorem Agrees.entries (h : Agrees item fits) {calls : Nat} {done : Members}
    {taken es : List (String × α)}
    (so : MapFits fits done taken) (read : members fuel depth first done input = .ok (v, rest))
    (found : entries item calls first taken input = .ok (es, left)) :
    left = rest ∧ ∃ names, v = .object names ∧ MapFits fits names es := by
  induction fuel generalizing calls first done taken input with
  | zero => rw [members] at read; contradiction
  | succ fuel ih =>
      obtain ⟨_, less, ⟨-, ends, rfl⟩ |
          ⟨front, name, between, start, w, behind, more, named, separated, member, later⟩⟩ :=
        members_cases read <;>
        obtain rfl := Nat.succ.inj less <;>
        obtain ⟨_, -, ⟨front', ends', closed, rfl⟩ |
            ⟨front', name', between', start', a, behind', more', named', separated', member',
              later'⟩⟩ :=
          entries_cases found
      · obtain rfl : 0x7D :: rest = front' := by simpa [ends] using ends'
        rw [endOfObject_closing] at closed
        obtain ⟨sorted, perm, ascending, all⟩ := so
        exact ⟨(Except.ok.inj closed).symm, done, rfl, sorted, (List.reverse_perm _).trans perm,
          ascending, all⟩
      · simp [ends] at more'
      · simp [more] at ends'
      · obtain rfl : front = front' := by simpa [more] using more'
        obtain ⟨rfl, rfl⟩ : name = name' ∧ between = between' := by simpa [named] using named'
        obtain rfl : start = start' := by simpa [separated] using separated'
        obtain ⟨rfl, fit⟩ := h member member'
        exact ih (so.put fit) later later'

theorem mapOf_cases {item : Nat → Reader α} {levels : Nat} {es : List (String × α)}
    (h : mapOf levels item input = .ok (es, rest)) :
    ∃ behind, skipBlanks input = 0x7B :: behind ∧
      entries (item (levels - 1)) (fuelFor behind) true [] behind = .ok (es, rest) := by
  rw [mapOf] at h
  split at h
  · contradiction
  · rename_i b behind next
    split at h
    · rename_i brace
      split at h
      · contradiction
      · exact ⟨behind, by rw [next, brace], h⟩
    · exact (wrongType_ne_ok h).elim

theorem Agrees.mapOf {item : Nat → Reader α} (h : ∀ depth, Agrees (item depth) fits)
    (levels : Nat) :
    Agrees (mapOf levels item) fun v es => ∃ names, v = .object names ∧ MapFits fits names es := by
  intro fuel depth input rest left v es read found
  obtain ⟨calls, -, begins⟩ := begins_of_value read
  obtain ⟨behind, next, found⟩ := mapOf_cases found
  rw [next] at begins
  obtain ⟨_, ends⟩ := begins.object_eq
  exact (h _).entries ⟨[], .refl _, .nil, .nil⟩ ends found

end Parts

end Read

end Json

end BulkIngest
