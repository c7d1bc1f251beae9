import BulkIngest.Json.Shape
import BulkIngest.Proofs.Json.Values

/-!
What stands in a text where a value was found: one case for each kind of value, and for a list or an
object its end or one more part of it. Whatever else goes over the same octets is compared with
these cases.
-/

namespace BulkIngest.Json

/-- What a mapped result was made of. -/
theorem map_eq_ok {α β : Type} {f : α → β} {x : Except Fault α} {b : β} (h : x.map f = .ok b) :
    ∃ a, x = .ok a ∧ f a = b := by
  cases x with
  | error fault => contradiction
  | ok a => exact ⟨a, rfl, Except.ok.inj h⟩

theorem ok_bind {ε α β : Type} (a : α) (f : α → Except ε β) : (Except.ok a >>= f) = f a := rfl

namespace Read

variable {fuel depth : Nat} {first more : Bool} {done : List Value} {names : Members}
  {input rest : Bytes} {v : Value}

theorem skipBlanks_skipBlanks (input : Bytes) :
    skipBlanks (skipBlanks input) = skipBlanks input := by
  induction input with
  | nil => rfl
  | cons b rest ih =>
      rw [skipBlanks]
      split
      · exact ih
      · rename_i seen
        rw [skipBlanks, if_neg seen]

theorem skipBlanks_eq {b : UInt8} (h : skipBlanks input = b :: rest) :
    skipBlanks (b :: rest) = b :: rest := by
  rw [← h, skipBlanks_skipBlanks]

/-- The value that begins with the first of the octets, so many calls and levels of nesting deep. -/
inductive Begins (calls : Nat) : Nat → Bytes → Value → Bytes → Prop
  | null {depth : Nat} {behind rest : Bytes} (ends : word wordNull behind = .ok rest) :
      Begins calls depth (0x6E :: behind) .null rest
  | yes {depth : Nat} {behind rest : Bytes} (ends : word wordTrue behind = .ok rest) :
      Begins calls depth (0x74 :: behind) (.boolean true) rest
  | no {depth : Nat} {behind rest : Bytes} (ends : word wordFalse behind = .ok rest) :
      Begins calls depth (0x66 :: behind) (.boolean false) rest
  | negative {depth : Nat} {behind rest : Bytes} {n : Number}
      (ends : Numeral.unsigned true behind = .ok (n, rest)) :
      Begins calls depth (0x2D :: behind) (.number n) rest
  | positive {depth : Nat} {b : UInt8} {behind rest : Bytes} {n : Number}
      (digit : (digit? b).isSome = true)
      (ends : Numeral.unsigned false (b :: behind) = .ok (n, rest)) :
      Begins calls depth (b :: behind) (.number n) rest
  | string {depth : Nat} {behind rest : Bytes} {s : String} (ends : string behind = .ok (s, rest)) :
      Begins calls depth (0x22 :: behind) (.string s) rest
  | list {depth : Nat} {behind rest : Bytes} {v : Value}
      (ends : elements calls (depth + 1) true [] behind = .ok (v, rest)) :
      Begins calls (depth + 2) (0x5B :: behind) v rest
  | object {depth : Nat} {behind rest : Bytes} {v : Value}
      (ends : members calls (depth + 1) true [] behind = .ok (v, rest)) :
      Begins calls (depth + 2) (0x7B :: behind) v rest

theorem begins_of_value (h : value fuel depth input = .ok (v, rest)) :
    ∃ calls, fuel = calls + 1 ∧ Begins calls depth (skipBlanks input) v rest := by
  cases fuel with
  | zero => rw [value] at h; contradiction
  | succ calls =>
      refine ⟨calls, rfl, ?_⟩
      rw [value] at h
      split at h
      · contradiction
      · rename_i b behind next
        rw [next]
        split at h
        · obtain ⟨_, ends, same⟩ := map_eq_ok h
          obtain ⟨rfl, rfl⟩ := Prod.mk.inj same
          subst b
          exact .null ends
        · split at h
          · obtain ⟨_, ends, same⟩ := map_eq_ok h
            obtain ⟨rfl, rfl⟩ := Prod.mk.inj same
            subst b
            exact .yes ends
          · split at h
            · obtain ⟨_, ends, same⟩ := map_eq_ok h
              obtain ⟨rfl, rfl⟩ := Prod.mk.inj same
              subst b
              exact .no ends
            · split at h
              · obtain ⟨_, ends, same⟩ := map_eq_ok h
                obtain ⟨rfl, rfl⟩ := Prod.mk.inj same
                subst b
                exact .negative ends
              · split at h
                · rename_i digit
                  obtain ⟨_, ends, same⟩ := map_eq_ok h
                  obtain ⟨rfl, rfl⟩ := Prod.mk.inj same
                  exact .positive digit ends
                · split at h
                  · obtain ⟨_, ends, same⟩ := map_eq_ok h
                    obtain ⟨rfl, rfl⟩ := Prod.mk.inj same
                    subst b
                    exact .string ends
                  · split at h
                    · subst b
                      split at h
                      · contradiction
                      · contradiction
                      · rename_i deep
                        obtain ⟨below, rfl⟩ := Nat.exists_eq_succ_of_ne_zero deep
                        exact .list h
                    · split at h
                      · subst b
                        split at h
                        · contradiction
                        · contradiction
                        · rename_i deep
                          obtain ⟨below, rfl⟩ := Nat.exists_eq_succ_of_ne_zero deep
                          exact .object h
                      · contradiction

section

variable {calls : Nat} {behind : Bytes}

theorem Begins.string_eq (h : Begins calls depth (0x22 :: behind) v rest) :
    ∃ s, Read.string behind = .ok (s, rest) ∧ v = .string s := by
  cases h with
  | string ends => exact ⟨_, ends, rfl⟩
  | positive digit _ => contradiction

theorem Begins.list_eq (h : Begins calls depth (0x5B :: behind) v rest) :
    ∃ levels, elements calls levels true [] behind = .ok (v, rest) := by
  cases h with
  | list ends => exact ⟨_, ends⟩
  | positive digit _ => contradiction

theorem Begins.object_eq (h : Begins calls depth (0x7B :: behind) v rest) :
    ∃ levels, members calls levels true [] behind = .ok (v, rest) := by
  cases h with
  | object ends => exact ⟨_, ends⟩
  | positive digit _ => contradiction

end

/-- A list ends here, or an element comes, behind a comma unless it is the first one. -/
theorem hasElement_cases (h : hasElement first input = .ok (more, rest)) :
    (more = false ∧ ∃ behind, skipBlanks input = 0x5D :: behind ∧ rest = 0x5D :: behind) ∨
    (more = true ∧ first = true ∧ ∃ b behind, skipBlanks input = b :: behind ∧ b ≠ 0x5D ∧
      rest = b :: behind) ∨
    (more = true ∧ first = false ∧ ∃ behind, skipBlanks input = 0x2C :: behind ∧
      rest = skipBlanks behind) := by
  rw [hasElement] at h
  split at h
  · contradiction
  · rename_i b behind next
    split at h
    · rename_i closing
      rw [Except.ok.injEq, Prod.mk.injEq] at h
      exact .inl ⟨h.1.symm, behind, by rw [next, closing], by rw [← h.2, closing]⟩
    · rename_i noEnd
      split at h
      · rename_i start
        rw [Except.ok.injEq, Prod.mk.injEq] at h
        exact .inr (.inl ⟨h.1.symm, start, b, behind, next, noEnd, h.2.symm⟩)
      · rename_i later
        split at h
        · rename_i separator
          split at h
          · contradiction
          · rename_i found
            split at h
            · contradiction
            · rw [Except.ok.injEq, Prod.mk.injEq] at h
              exact .inr (.inr ⟨h.1.symm, by simpa using later, behind, by rw [next, separator],
                by rw [found, h.2]⟩)
        · contradiction

/-- An object ends here, or a name comes, behind a comma unless it is the first one. -/
theorem hasName_cases (h : hasName first input = .ok (more, rest)) :
    (more = false ∧ ∃ behind, skipBlanks input = 0x7D :: behind ∧ rest = 0x7D :: behind) ∨
    (more = true ∧ first = true ∧ skipBlanks input = 0x22 :: rest) ∨
    (more = true ∧ first = false ∧ ∃ behind, skipBlanks input = 0x2C :: behind ∧
      skipBlanks behind = 0x22 :: rest) := by
  rw [hasName] at h
  split at h
  · contradiction
  · rename_i b behind next
    split at h
    · rename_i closing
      rw [Except.ok.injEq, Prod.mk.injEq] at h
      exact .inl ⟨h.1.symm, behind, by rw [next, closing], by rw [← h.2, closing]⟩
    · split at h
      · rename_i start
        split at h
        · rename_i quote
          rw [Except.ok.injEq, Prod.mk.injEq] at h
          exact .inr (.inl ⟨h.1.symm, start, by rw [next, quote, h.2]⟩)
        · contradiction
      · rename_i later
        split at h
        · rename_i separator
          split at h
          · contradiction
          · rename_i found
            split at h
            · rename_i quote
              rw [Except.ok.injEq, Prod.mk.injEq] at h
              exact .inr (.inr ⟨h.1.symm, by simpa using later, behind, by rw [next, separator],
                by rw [found, quote, h.2]⟩)
            · split at h <;> contradiction
        · contradiction

theorem endOfList_closing (rest : Bytes) : endOfList (0x5D :: rest) = .ok rest := by
  simp [endOfList, skipBlanks, isBlank]

/-- Where a list may be closed, no element comes. -/
theorem hasElement_of_endOfList (h : endOfList input = .ok rest) :
    hasElement first input = .ok (false, 0x5D :: rest) := by
  rw [endOfList] at h
  rw [hasElement]
  split at h
  · contradiction
  · rename_i b behind next
    split at h
    · rename_i closing
      simp only [if_pos closing]
      rw [closing, Except.ok.inj h]
    · split at h
      · split at h <;> contradiction
      · contradiction

theorem endOfObject_closing (rest : Bytes) : endOfObject (0x7D :: rest) = .ok rest := by
  simp [endOfObject, skipBlanks, isBlank]

theorem elements_cases (h : elements fuel depth first done input = .ok (v, rest)) :
    ∃ calls, fuel = calls + 1 ∧
    ((skipBlanks input = 0x5D :: rest ∧ hasElement first input = .ok (false, 0x5D :: rest) ∧
      v = .array done.reverse) ∨
    ∃ front w left, hasElement first input = .ok (true, front) ∧
      value calls depth front = .ok (w, left) ∧
      elements calls depth false (w :: done) left = .ok (v, rest)) := by
  cases fuel with
  | zero => rw [elements] at h; contradiction
  | succ calls =>
      refine ⟨calls, rfl, ?_⟩
      rw [elements] at h
      split at h
      · contradiction
      · rename_i ends
        obtain ⟨_, closed, same⟩ := map_eq_ok h
        rcases hasElement_cases ends with ⟨-, behind, next, rfl⟩ | ⟨never, -⟩ | ⟨never, -⟩
        · rw [endOfList_closing, Except.ok.injEq] at closed
          obtain ⟨rfl, rfl⟩ := Prod.mk.inj same
          subst closed
          exact .inl ⟨next, ends, rfl⟩
        · contradiction
        · contradiction
      · rename_i front more
        split at h
        · contradiction
        · rename_i element
          exact .inr ⟨front, _, _, more, element, h⟩

theorem members_cases (h : members fuel depth first names input = .ok (v, rest)) :
    ∃ calls, fuel = calls + 1 ∧
    ((skipBlanks input = 0x7D :: rest ∧ hasName first input = .ok (false, 0x7D :: rest) ∧
      v = .object names) ∨
    ∃ front name between start w left, hasName first input = .ok (true, front) ∧
      string front = .ok (name, between) ∧ colon between = .ok start ∧
      value calls depth start = .ok (w, left) ∧
      members calls depth false (names.put name w) left = .ok (v, rest)) := by
  cases fuel with
  | zero => rw [members] at h; contradiction
  | succ calls =>
      refine ⟨calls, rfl, ?_⟩
      rw [members] at h
      split at h
      · contradiction
      · rename_i ends
        obtain ⟨_, closed, same⟩ := map_eq_ok h
        rcases hasName_cases ends with ⟨-, behind, next, rfl⟩ | ⟨never, -⟩ | ⟨never, -⟩
        · rw [endOfObject_closing, Except.ok.injEq] at closed
          obtain ⟨rfl, rfl⟩ := Prod.mk.inj same
          subst closed
          exact .inl ⟨next, ends, rfl⟩
        · contradiction
        · contradiction
      · rename_i front more
        split at h
        · contradiction
        · rename_i named
          split at h
          · contradiction
          · rename_i separated
            split at h
            · contradiction
            · rename_i member
              exact .inr ⟨front, _, _, _, _, _, more, named, separated, member, h⟩

theorem elements_array (h : elements fuel depth first done input = .ok (v, rest)) :
    ∃ vs, v = .array vs := by
  induction fuel generalizing first done input with
  | zero => rw [elements] at h; contradiction
  | succ fuel ih =>
      obtain ⟨_, less, ⟨-, -, rfl⟩ | ⟨_, _, _, -, -, later⟩⟩ := elements_cases h
      · exact ⟨_, rfl⟩
      · obtain rfl := Nat.succ.inj less
        exact ih later

theorem members_object (h : members fuel depth first names input = .ok (v, rest)) :
    ∃ d, v = .object d := by
  induction fuel generalizing first names input with
  | zero => rw [members] at h; contradiction
  | succ fuel ih =>
      obtain ⟨_, less, ⟨-, -, rfl⟩ | ⟨_, _, _, _, _, _, -, -, -, -, later⟩⟩ := members_cases h
      · exact ⟨_, rfl⟩
      · obtain rfl := Nat.succ.inj less
        exact ih later

/-- What was read of a whole text, up to the blanks behind it. -/
theorem exists_of_whole {α : Type} {reader : Reader α} {a : α} (h : whole reader input = .ok a) :
    ∃ rest, reader input = .ok (a, rest) ∧ skipBlanks rest = [] := by
  rw [whole] at h
  cases read : reader input with
  | error fault =>
      rw [read] at h
      contradiction
  | ok found =>
      rw [read, ok_bind, finish] at h
      split at h
      · rename_i ended
        exact ⟨found.2, by rw [← Except.ok.inj h], ended⟩
      · contradiction

end Read

end BulkIngest.Json
