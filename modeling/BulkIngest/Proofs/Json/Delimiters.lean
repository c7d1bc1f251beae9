import BulkIngest.Proofs.Json.Shapes
import BulkIngest.Proofs.Json.Extents

/-!
A value is the same with a delimiter behind it. What was read up to the end of a text is read as far
inside a list or an object, where a comma, a bracket or a brace comes next, or blanks before one.
Only a number has to look at it.
-/

namespace BulkIngest.Json

/-- Octets that do not go on a number. -/
def EndsNumeral (more : Bytes) : Prop :=
  ∀ b ∈ more.head?, digit? b = none ∧ b ≠ 0x2E ∧ Numeral.isExponentLetter b = false

theorem Delimited.endsNumeral {more : Bytes} (h : Delimited more) : EndsNumeral more := by
  intro b mem
  obtain rfl | rfl | rfl := h b mem <;> decide

theorem Read.Blanks.endsNumeral {blanks more : Bytes} (blank : Blanks blanks)
    (h : EndsNumeral more) :
    EndsNumeral (blanks ++ more) := by
  cases blanks with
  | nil => exact h
  | cons b blanks =>
      rintro _ ⟨⟩
      have seen := blank b List.mem_cons_self
      simp only [isBlank, Bool.or_eq_true, decide_eq_true_eq] at seen
      obtain ((rfl | rfl) | rfl) | rfl := seen <;> decide

namespace Numeral

variable {negative zero positive : Bool} {significand count dropped : Nat} {start : Int}
  {input more rest : Bytes} {n : Number} {o : Option Nat}

theorem startsWithDigit_ended (ends : EndsNumeral more) : startsWithDigit more = false := by
  cases more with
  | nil => rfl
  | cons b more => rw [startsWithDigit, (ends b rfl).1, Option.isSome_none]

theorem startsWithDigit_append (ends : EndsNumeral more) (input : Bytes) :
    startsWithDigit (input ++ more) = startsWithDigit input := by
  cases input with
  | nil => exact startsWithDigit_ended ends
  | cons b input => rfl

theorem skip_append (ends : EndsNumeral more) (count : Nat) (input : Bytes) :
    skip count (input ++ more) = ((skip count input).1, (skip count input).2 ++ more) := by
  induction input generalizing count with
  | nil => exact skip_ended (startsWithDigit_ended ends) count
  | cons b input ih =>
      rw [List.cons_append, skip, skip]
      split
      · exact ih (count + 1)
      · rfl

theorem gather_append (ends : EndsNumeral more) (significand places : Nat) (input : Bytes) :
    gather significand places (input ++ more) =
      ((gather significand places input).1, (gather significand places input).2.1,
        (gather significand places input).2.2 ++ more) := by
  induction input generalizing significand places with
  | nil =>
      cases more with
      | nil => rfl
      | cons b more => simp [gather, (ends b rfl).1]
  | cons b input ih =>
      cases digit : digit? b with
      | none => simp [gather, digit]
      | some d =>
          simp only [List.cons_append, gather, digit]
          split
          · exact ih _ _
          · rfl

theorem float_append (h : float negative significand start input = .ok (n, rest)) (more : Bytes) :
    float negative significand start (input ++ more) = .ok (n, rest ++ more) := by
  rw [rest_of_float h]
  exact float_taken h _

theorem exponentDigits_append (ends : EndsNumeral more)
    (h : exponentDigits negative zero positive count input = .ok (o, rest)) :
    exponentDigits negative zero positive count (input ++ more) = .ok (o, rest ++ more) := by
  obtain ⟨digits, rfl, ended, taken⟩ := exponentDigits_taken h
  rw [List.append_assoc]
  exact taken _ ((startsWithDigit_append ends rest).trans ended)

theorem sign_append {b : UInt8} (h : sign input = (positive, b :: rest)) (more : Bytes) :
    sign (input ++ more) = (positive, b :: (rest ++ more)) := by
  unfold sign at h
  split at h
  · obtain ⟨rfl, rfl⟩ := Prod.mk.inj h
    rfl
  · obtain ⟨rfl, rfl⟩ := Prod.mk.inj h
    rfl
  · rename_i noPlus noMinus
    obtain ⟨rfl, rfl⟩ := Prod.mk.inj h
    unfold sign
    split
    · rename_i same
      exact absurd (by rw [(List.cons.inj same).1]) (noPlus rest)
    · rename_i same
      exact absurd (by rw [(List.cons.inj same).1]) (noMinus rest)
    · rfl

theorem exponent_append (ends : EndsNumeral more)
    (h : exponent negative significand start input = .ok (n, rest)) :
    exponent negative significand start (input ++ more) = .ok (n, rest ++ more) := by
  rw [exponent] at h
  cases signed : sign input with
  | mk positive behind =>
      rw [signed] at h
      cases behind with
      | nil => contradiction
      | cons b behind =>
          rw [exponent, sign_append signed]
          cases digit : digit? b with
          | none =>
              simp only [digit] at h
              contradiction
          | some d =>
              simp only [digit] at h ⊢
              split at h
              · contradiction
              · rename_i read
                rw [exponentDigits_append ends read]
                obtain ⟨rfl, rfl⟩ := Prod.mk.inj (Except.ok.inj h)
                rfl
              · rename_i read
                rw [exponentDigits_append ends read]
                exact float_append h more

theorem behindFraction_append (ends : EndsNumeral more)
    (h : behindFraction negative significand start input = .ok (n, rest)) :
    behindFraction negative significand start (input ++ more) = .ok (n, rest ++ more) := by
  cases input with
  | nil =>
      cases more with
      | nil => simpa using h
      | cons b more =>
          rw [List.nil_append, behindFraction, if_neg (by simp [(ends b rfl).2.2])]
          exact float_append h (b :: more)
  | cons b input =>
      rw [behindFraction] at h
      rw [List.cons_append, behindFraction]
      split at h
      · rename_i letter
        rw [if_pos letter]
        exact exponent_append ends h
      · rename_i noLetter
        rw [if_neg noLetter]
        exact float_append h more

theorem fraction_append (ends : EndsNumeral more)
    (h : fraction negative significand dropped input = .ok (n, rest)) :
    fraction negative significand dropped (input ++ more) = .ok (n, rest ++ more) := by
  rw [fraction_eq] at h
  simp only [fraction_eq, gather_append ends, skip_append ends, startsWithDigit_append ends]
  split at h
  · split at h <;> contradiction
  · rename_i digits
    rw [if_neg digits]
    exact behindFraction_append ends h

theorem continued_append (ends : EndsNumeral more)
    (h : continued negative significand dropped input = .ok (n, rest)) :
    continued negative significand dropped (input ++ more) = .ok (n, rest ++ more) := by
  cases input with
  | nil =>
      cases more with
      | nil => simpa using h
      | cons b more =>
          obtain ⟨-, noPoint, noLetter⟩ := ends b rfl
          obtain ⟨rfl, taken⟩ := integral_taken h
          rw [List.nil_append, continued, if_neg noPoint, if_neg (by simp [noLetter])]
          exact taken (b :: more)
  | cons b input =>
      rw [continued] at h
      rw [List.cons_append, continued]
      split at h
      · rename_i point
        rw [if_pos point]
        exact fraction_append ends h
      · rename_i noPoint
        rw [if_neg noPoint]
        split at h
        · rename_i letter
          rw [if_pos letter]
          exact exponent_append ends h
        · rename_i noLetter
          obtain ⟨rfl, taken⟩ := integral_taken h
          rw [if_neg noLetter]
          exact taken (b :: (input ++ more))

theorem unsigned_append (ends : EndsNumeral more) (h : unsigned negative input = .ok (n, rest)) :
    unsigned negative (input ++ more) = .ok (n, rest ++ more) := by
  cases input with
  | nil => contradiction
  | cons b input =>
      rw [unsigned] at h
      rw [List.cons_append, unsigned]
      split at h
      · contradiction
      · rename_i digit
        simp only [startsWithDigit_append ends]
        split at h
        · contradiction
        · rename_i noDigit
          rw [if_neg noDigit]
          exact continued_append ends h
      · rename_i d positive digit
        obtain ⟨before, rfl⟩ := Nat.exists_eq_succ_of_ne_zero positive
        simp only [gather_append ends, skip_append ends]
        exact continued_append ends h

end Numeral

namespace Read

variable {calls depth : Nat} {core input more : Bytes} {v : Value}

/-- The octets of a value from its first to its last one, with `depth` levels of nesting left. -/
def Denotes (depth : Nat) (core : Bytes) (v : Value) : Prop := ∃ calls, Begins calls depth core v []

theorem skipBlanks_of_startsValue (starts : StartsValue input) : skipBlanks input = input := by
  obtain ⟨b, more, rfl, seen, -⟩ := starts
  rw [skipBlanks, if_neg (by simp [seen])]

/-- A text that stands for a value has blanks around the octets of that value. -/
theorem exists_denotes (h : whole (anyValue depth) input = .ok v) :
    ∃ before core after, input = before ++ (core ++ after) ∧ Blanks before ∧ Blanks after ∧
      Denotes depth core v := by
  obtain ⟨rest, read, ended⟩ := exists_of_whole h
  obtain ⟨before, core, split, blank, extent⟩ := (taken _).value read
  have alone := extent.spells (2 * core.length) [] (Nat.le_refl _) (.nil rest)
  rw [List.append_nil] at alone
  obtain ⟨calls, -, begins⟩ := begins_of_value alone
  rw [skipBlanks_of_startsValue extent.starts] at begins
  exact ⟨before, core, rest, split, blank, blanks_of_skipBlanks ended, calls, begins⟩

theorem Denotes.startsValue (h : Denotes depth core v) : StartsValue core := by
  obtain ⟨calls, begins⟩ := h
  obtain ⟨octets, same, extent⟩ := extent_of_taken (taken calls) begins
  rw [same, List.append_nil]
  exact extent.starts

/-- Before a delimiter, and with calls enough, the octets of a value are read as that value. -/
theorem Denotes.value (h : Denotes depth core v) (enough : 2 * core.length ≤ calls)
    (ends : EndsNumeral more) :
    value calls depth (core ++ more) = .ok (v, more) := by
  have nonempty := h.startsValue.length_pos
  obtain ⟨calls, rfl⟩ := Nat.exists_eq_add_of_le' (by omega : 1 ≤ calls)
  obtain ⟨_, begins⟩ := h
  cases begins with
  | null ended =>
      obtain ⟨rfl, taken⟩ := word_taken ended
      rw [List.append_nil, List.cons_append, value_cons (by decide), if_pos rfl, taken more]
      rfl
  | yes ended =>
      obtain ⟨rfl, taken⟩ := word_taken ended
      rw [List.append_nil, List.cons_append, value_cons (by decide), if_neg (by decide), if_pos rfl,
        taken more]
      rfl
  | no ended =>
      obtain ⟨rfl, taken⟩ := word_taken ended
      rw [List.append_nil, List.cons_append, value_cons (by decide), if_neg (by decide),
        if_neg (by decide), if_pos rfl, taken more]
      rfl
  | negative ended =>
      rw [List.cons_append, value_cons (by decide), if_neg (by decide), if_neg (by decide),
        if_neg (by decide), if_pos rfl, Numeral.unsigned_append ends ended]
      rfl
  | positive digit ended =>
      obtain ⟨single, noNull, noTrue, noFalse, noMinus, -⟩ := digit_distinct digit
      rw [List.cons_append, value_cons single, if_neg noNull, if_neg noTrue, if_neg noFalse,
        if_neg noMinus, if_pos digit, ← List.cons_append, Numeral.unsigned_append ends ended]
      rfl
  | string ended =>
      obtain ⟨used, rfl, taken⟩ := string_taken ended
      rw [List.append_nil, List.cons_append, value_cons (by decide)]
      exact congrArg (Except.map _) (taken more).1
  | list ended =>
      obtain ⟨inside, rfl, found⟩ := (taken _).elements ended
      have spelled : Spells _ (0x5B :: (inside ++ [0x5D])) v more :=
        spells_nested fun calls more enough => by
        rw [value_array]
        exact found calls more enough
      exact spelled (calls + 1) more enough (.refl more)
  | object ended =>
      obtain ⟨inside, rfl, found⟩ := (taken _).members ended
      have spelled : Spells _ (0x7B :: (inside ++ [0x7D])) v more :=
        spells_nested fun calls more enough => by
        rw [value_object]
        exact found calls more enough
      exact spelled (calls + 1) more enough (.refl more)

end Read

end BulkIngest.Json
