import BulkIngest.Proofs.Json.Skipping

/-!
A number is known by its own octets, but unlike a word or a string it does not say where it ends: it
goes on as long as the octets allow it. So what comes behind it may be left out or replaced by
octets that begin like those that came behind it, and not by any others.
-/

namespace BulkIngest.Json

/-- Octets that are over, or go on as others do. -/
def Alike (more rest : Bytes) : Prop := ∀ b ∈ more.head?, b ∈ rest.head?

namespace Alike

variable {more rest : Bytes}

theorem nil (rest : Bytes) : Alike [] rest := fun _ mem => absurd mem.symm (Option.some_ne_none _)

theorem refl (rest : Bytes) : Alike rest rest := fun _ mem => mem

theorem cons (b : UInt8) (more rest : Bytes) : Alike (b :: more) (b :: rest) := fun _ mem => mem

theorem cases (h : Alike more rest) :
    more = [] ∨ ∃ b more' rest', more = b :: more' ∧ rest = b :: rest' := by
  cases more with
  | nil => exact .inl rfl
  | cons b more =>
      cases rest with
      | nil => exact absurd (h b rfl).symm (Option.some_ne_none b)
      | cons c rest =>
          obtain rfl : c = b := Option.some.inj (h b rfl)
          exact .inr ⟨c, more, rest, rfl, rfl⟩

theorem append (h : Alike more rest) (used : Bytes) : Alike (used ++ more) (used ++ rest) := by
  cases used with
  | nil => exact h
  | cons b used => exact cons b _ _

end Alike

namespace Numeral

variable {negative zero positive : Bool} {significand count dropped : Nat} {start : Int}
  {input more rest : Bytes} {n : Number} {o : Option Nat}

theorem startsWithDigit_alike (alike : Alike more rest) (ends : startsWithDigit rest = false) :
    startsWithDigit more = false := by
  obtain rfl | ⟨b, more, rest, rfl, rfl⟩ := alike.cases
  · rfl
  · exact ends

theorem skip_ended (ends : startsWithDigit more = false) (count : Nat) :
    skip count more = (count, more) := by
  cases more with
  | nil => rfl
  | cons b more => rw [skip, if_neg (by simpa [startsWithDigit] using ends)]

theorem skip_taken (count : Nat) (input : Bytes) :
    ∃ digits, input = digits ++ (skip count input).2 ∧
      startsWithDigit (skip count input).2 = false ∧
      ∀ more, startsWithDigit more = false →
        skip count (digits ++ more) = ((skip count input).1, more) := by
  induction input generalizing count with
  | nil => exact ⟨[], rfl, rfl, fun more ends => skip_ended ends count⟩
  | cons b rest ih =>
      by_cases digit : (digit? b).isSome = true
      · obtain ⟨digits, split, ends, taken⟩ := ih (count + 1)
        have passed (rest : Bytes) : skip count (b :: rest) = skip (count + 1) rest := by
          rw [skip, if_pos digit]
        rw [passed]
        refine ⟨b :: digits, congrArg (b :: ·) split, ends, fun more ends => ?_⟩
        rw [List.cons_append, passed, taken more ends]
      · have ends : startsWithDigit (b :: rest) = false := by simpa [startsWithDigit] using digit
        rw [skip_ended ends]
        exact ⟨[], rfl, ends, fun more ends => skip_ended ends count⟩

theorem gather_taken (significand places : Nat) (input : Bytes) :
    ∃ digits, input = digits ++ (gather significand places input).2.2 ∧
      ∀ more, Alike more (gather significand places input).2.2 →
        gather significand places (digits ++ more) =
          ((gather significand places input).1, (gather significand places input).2.1, more) := by
  induction input generalizing significand places with
  | nil =>
      refine ⟨[], rfl, fun more alike => ?_⟩
      obtain rfl | ⟨b, more, rest, rfl, never⟩ := alike.cases
      · rfl
      · contradiction
  | cons b rest ih =>
      -- whether an octet is taken does not depend on those behind it
      have stays (h : ∀ rest, gather significand places (b :: rest) =
        (significand, places, b :: rest)) :
          ∃ digits, b :: rest = digits ++ (gather significand places (b :: rest)).2.2 ∧
            ∀ more, Alike more (gather significand places (b :: rest)).2.2 →
              gather significand places (digits ++ more) =
                ((gather significand places (b :: rest)).1,
                  (gather significand places (b :: rest)).2.1, more) := by
        rw [h]
        refine ⟨[], rfl, fun more alike => ?_⟩
        obtain rfl | ⟨c, more, rest', rfl, same⟩ := alike.cases
        · rfl
        · rw [← (List.cons.inj same).1]
          exact h more
      cases digit : digit? b with
      | none => exact stays fun rest => by simp only [gather, digit]
      | some d =>
          by_cases fits : significand * 10 + d < 18446744073709551616
          · have passed (rest : Bytes) : gather significand places (b :: rest) =
                gather (significand * 10 + d) (places + 1) rest := by
                simp only [gather, digit, if_pos fits]
            obtain ⟨digits, split, taken⟩ := ih (significand * 10 + d) (places + 1)
            rw [passed]
            refine ⟨b :: digits, congrArg (b :: ·) split, fun more alike => ?_⟩
            rw [List.cons_append, passed, taken more alike]
          · exact stays fun rest => by simp only [gather, digit, if_neg fits]

/-- Digits are taken up to the last one, those that fit and then the others. -/
theorem digits_taken (significand places : Nat) (input : Bytes) :
    ∃ gained counted dropped digits others rest, input = digits ++ (others ++ rest) ∧
      startsWithDigit rest = false ∧ ∀ more, Alike more rest →
        gather significand places (digits ++ (others ++ more)) = (gained, counted, others ++ more) ∧
          skip 0 (others ++ more) = (dropped, more) := by
  obtain ⟨digits, split, gathered⟩ := gather_taken significand places input
  obtain ⟨others, split', ends, skipped⟩ := skip_taken 0 (gather significand places input).2.2
  rw [split'] at split gathered
  exact ⟨_, _, _, digits, others, _, split, ends, fun more alike =>
    ⟨gathered _ (alike.append others), skipped more (startsWithDigit_alike alike ends)⟩⟩

theorem signed_taken {x : Option Binary64} (h : signed negative input x = .ok (n, rest))
    (more : Bytes) :
    signed negative more x = .ok (n, more) := by
  cases x with
  | none => contradiction
  | some x =>
      rw [signed, Except.ok.injEq, Prod.mk.injEq] at h
      rw [signed, h.1]

theorem float_taken (h : float negative significand start input = .ok (n, rest)) (more : Bytes) :
    float negative significand start more = .ok (n, more) :=
  signed_taken h more

theorem whole_taken (h : whole negative significand input = .ok (n, rest)) (more : Bytes) :
    whole negative significand more = .ok (n, more) := by
  rw [whole] at h ⊢
  split at h <;> split at h
  · rw [Except.ok.injEq, Prod.mk.injEq] at h
    rw [if_pos ‹_›, dif_pos ‹_›, h.1]
  · rw [if_pos ‹_›, dif_neg ‹_›]
    exact float_taken h more
  · rw [Except.ok.injEq, Prod.mk.injEq] at h
    rw [if_neg ‹_›, dif_pos ‹_›, h.1]
  · rw [if_neg ‹_›, dif_neg ‹_›]
    exact float_taken h more

theorem exponentDigits_ended (ends : startsWithDigit more = false) :
    exponentDigits negative zero positive count more = .ok (some count, more) := by
  cases more with
  | nil => rfl
  | cons b more =>
      have noDigit : digit? b = none := by simpa [startsWithDigit] using ends
      simp only [exponentDigits, noDigit]

theorem exponentDigits_taken
    (h : exponentDigits negative zero positive count input = .ok (o, rest)) :
    ∃ digits, input = digits ++ rest ∧ startsWithDigit rest = false ∧
      ∀ more, startsWithDigit more = false →
        exponentDigits negative zero positive count (digits ++ more) = .ok (o, more) := by
  induction input generalizing count with
  | nil =>
      rw [exponentDigits, Except.ok.injEq, Prod.mk.injEq] at h
      obtain ⟨rfl, rfl⟩ := h
      exact ⟨[], rfl, rfl, fun more => exponentDigits_ended⟩
  | cons b input ih =>
      cases digit : digit? b with
      | none =>
          simp only [exponentDigits, digit, Except.ok.injEq, Prod.mk.injEq] at h
          obtain ⟨rfl, rfl⟩ := h
          exact ⟨[], rfl, by simp [startsWithDigit, digit], fun more => exponentDigits_ended⟩
      | some d =>
          simp only [exponentDigits, digit] at h
          split at h
          · rename_i fits
            obtain ⟨digits, rfl, ends, taken⟩ := ih h
            refine ⟨b :: digits, rfl, ends, fun more ends => ?_⟩
            simp only [List.cons_append, exponentDigits, digit, if_pos fits, taken more ends]
          · rename_i large
            split at h
            · contradiction
            · rename_i small
              rw [Except.ok.injEq, Prod.mk.injEq] at h
              obtain ⟨rfl, rfl⟩ := h
              obtain ⟨digits, split, ends, taken⟩ := skip_taken 0 input
              refine ⟨b :: digits, congrArg (b :: ·) split, ends, fun more ends => ?_⟩
              simp only [List.cons_append, exponentDigits, digit, if_neg large, if_neg small,
                taken more ends]

/-- A sign is taken up to the first digit. -/
theorem sign_taken {b : UInt8} {behind : Bytes} (h : sign input = (positive, b :: behind))
    (digit : (digit? b).isSome = true) :
    ∃ signs, input = signs ++ b :: behind ∧
      ∀ more, sign (signs ++ b :: more) = (positive, b :: more) := by
  unfold sign at h
  split at h
  · obtain ⟨rfl, rfl⟩ := Prod.mk.inj h
    exact ⟨[0x2B], rfl, fun more => rfl⟩
  · obtain ⟨rfl, rfl⟩ := Prod.mk.inj h
    exact ⟨[0x2D], rfl, fun more => rfl⟩
  · obtain ⟨rfl, rfl⟩ := Prod.mk.inj h
    refine ⟨[], rfl, fun more => ?_⟩
    rw [List.nil_append]
    unfold sign
    split
    · rename_i same
      rw [(List.cons.inj same).1] at digit
      contradiction
    · rename_i same
      rw [(List.cons.inj same).1] at digit
      contradiction
    · rfl

theorem exponent_taken (h : exponent negative significand start input = .ok (n, rest)) :
    ∃ used, input = used ++ rest ∧
      ∀ more, Alike more rest →
        exponent negative significand start (used ++ more) = .ok (n, more) := by
  rw [exponent] at h
  cases signed : sign input with
  | mk positive behind =>
      rw [signed] at h
      cases behind with
      | nil => contradiction
      | cons b behind =>
          cases digit : digit? b with
          | none =>
              simp only [digit] at h
              contradiction
          | some d =>
              simp only [digit] at h
              obtain ⟨signs, rfl, again⟩ := sign_taken signed (by rw [digit, Option.isSome_some])
              split at h
              · contradiction
              · rename_i read
                obtain ⟨digits, rfl, ends, taken⟩ := exponentDigits_taken read
                rw [Except.ok.injEq, Prod.mk.injEq] at h
                obtain ⟨rfl, rfl⟩ := h
                refine ⟨signs ++ b :: digits, by simp, fun more alike => ?_⟩
                rw [List.append_assoc, List.cons_append, exponent, again]
                simp only [digit, taken more (startsWithDigit_alike alike ends)]
              · rename_i read
                obtain ⟨digits, rfl, ends, taken⟩ := exponentDigits_taken read
                obtain rfl := rest_of_float h
                refine ⟨signs ++ b :: digits, by simp, fun more alike => ?_⟩
                rw [List.append_assoc, List.cons_append, exponent, again]
                simp only [digit, taken more (startsWithDigit_alike alike ends), float_taken h more]

/-- What comes behind the digits of a fraction. -/
def behindFraction (negative : Bool) (significand : Nat) (start : Int) :
    Bytes → Except Fault (Number × Bytes)
  | [] => float negative significand start []
  | b :: rest =>
    if isExponentLetter b then exponent negative significand start rest
    else float negative significand start (b :: rest)

theorem behindFraction_taken (h : behindFraction negative significand start input = .ok (n, rest)) :
    ∃ used, input = used ++ rest ∧
      ∀ more, Alike more rest →
        behindFraction negative significand start (used ++ more) = .ok (n, more) := by
  cases input with
  | nil =>
      obtain rfl := rest_of_float h
      refine ⟨[], rfl, fun more alike => ?_⟩
      obtain rfl | ⟨b, more, rest, rfl, never⟩ := alike.cases
      · exact h
      · contradiction
  | cons b input =>
      rw [behindFraction] at h
      split at h
      · rename_i letter
        obtain ⟨used, rfl, taken⟩ := exponent_taken h
        refine ⟨b :: used, rfl, fun more alike => ?_⟩
        rw [List.cons_append, behindFraction, if_pos letter, taken more alike]
      · rename_i noLetter
        obtain rfl := rest_of_float h
        refine ⟨[], rfl, fun more alike => ?_⟩
        obtain rfl | ⟨c, more, rest, rfl, same⟩ := alike.cases
        · exact float_taken h []
        · rw [← (List.cons.inj same).1, List.nil_append, behindFraction, if_neg noLetter]
          exact float_taken h _

theorem fraction_eq (negative : Bool) (significand dropped : Nat) (input : Bytes) :
    fraction negative significand dropped input =
      if (gather significand 0 input).2.1 = 0 ∧
        startsWithDigit (gather significand 0 input).2.2 = false then
        match (gather significand 0 input).2.2 with
        | [] => fail .endOfValue []
        | _ => failNext .invalidNumber (gather significand 0 input).2.2
      else
        behindFraction negative (gather significand 0 input).1
        (dropped - (gather significand 0 input).2.1)
          (skip 0 (gather significand 0 input).2.2).2 := by
  rw [fraction]
  simp only [Bool.and_eq_true, decide_eq_true_eq, Bool.not_eq_true']
  rfl

theorem fraction_taken (h : fraction negative significand dropped input = .ok (n, rest)) :
    ∃ used, input = used ++ rest ∧
      ∀ more, Alike more rest →
        fraction negative significand dropped (used ++ more) = .ok (n, more) := by
  obtain ⟨gained, places, count, digits, others, left, rfl, ends, digits_eq⟩ :=
    digits_taken significand 0 input
  obtain ⟨gathered, skipped⟩ := digits_eq left (.refl left)
  simp only [fraction_eq, gathered, skipped] at h
  split at h
  · split at h <;> contradiction
  · rename_i placed
    obtain ⟨used, rfl, taken⟩ := behindFraction_taken h
    refine ⟨digits ++ (others ++ used), by simp only [List.append_assoc], fun more alike => ?_⟩
    obtain ⟨gathered, skipped⟩ := digits_eq (used ++ more) (alike.append used)
    have goesOn : ¬ (places = 0 ∧ startsWithDigit (others ++ (used ++ more)) = false) := by
      rintro ⟨unplaced, noDigit⟩
      refine placed ⟨unplaced, ?_⟩
      cases others with
      | nil => exact ends
      | cons b others => exact noDigit
    simp only [fraction_eq, List.append_assoc, gathered, skipped, if_neg goesOn, taken more alike]

/-- What comes behind a whole part does not matter if it is neither a fraction nor an exponent. -/
theorem integral_taken (h : (if dropped = 0 then whole negative significand input
    else float negative significand dropped input) = .ok (n, rest)) :
    rest = input ∧ ∀ more, (if dropped = 0 then whole negative significand more
      else float negative significand dropped more) = .ok (n, more) := by
  split at h
  · rename_i all
    exact ⟨rest_of_whole h, fun more => by rw [if_pos all, whole_taken h more]⟩
  · rename_i cut
    exact ⟨rest_of_float h, fun more => by rw [if_neg cut, float_taken h more]⟩

theorem continued_taken (h : continued negative significand dropped input = .ok (n, rest)) :
    ∃ used, input = used ++ rest ∧
      ∀ more, Alike more rest →
        continued negative significand dropped (used ++ more) = .ok (n, more) := by
  cases input with
  | nil =>
      obtain ⟨rfl, -⟩ := integral_taken h
      refine ⟨[], rfl, fun more alike => ?_⟩
      obtain rfl | ⟨b, more, rest, rfl, never⟩ := alike.cases
      · exact h
      · contradiction
  | cons b input =>
      rw [continued] at h
      split at h
      · rename_i point
        subst point
        obtain ⟨used, rfl, taken⟩ := fraction_taken h
        refine ⟨0x2E :: used, rfl, fun more alike => ?_⟩
        rw [List.cons_append, continued, if_pos rfl, taken more alike]
      · rename_i noPoint
        split at h
        · rename_i letter
          obtain ⟨used, rfl, taken⟩ := exponent_taken h
          refine ⟨b :: used, rfl, fun more alike => ?_⟩
          rw [List.cons_append, continued, if_neg noPoint, if_pos letter, taken more alike]
        · rename_i noLetter
          obtain ⟨rfl, taken⟩ := integral_taken h
          refine ⟨[], rfl, fun more alike => ?_⟩
          obtain rfl | ⟨c, more, rest, rfl, same⟩ := alike.cases
          · exact taken []
          · rw [← (List.cons.inj same).1, List.nil_append, continued, if_neg noPoint,
              if_neg noLetter, taken]

/-- A number takes the same octets whatever comes behind them, if that does not go on
differently. -/
theorem unsigned_taken (h : unsigned negative input = .ok (n, rest)) :
    ∃ b used, input = b :: (used ++ rest) ∧
      ∀ more, Alike more rest → unsigned negative (b :: (used ++ more)) = .ok (n, more) := by
  cases input with
  | nil => contradiction
  | cons b input =>
      rw [unsigned] at h
      split at h
      · contradiction
      · rename_i digit
        split at h
        · contradiction
        · rename_i noDigit
          obtain ⟨used, rfl, taken⟩ := continued_taken h
          refine ⟨b, used, rfl, fun more alike => ?_⟩
          have ends := startsWithDigit_alike (alike.append used) (by simpa using noDigit)
          rw [unsigned, digit]
          simp only [ends, Bool.false_eq_true, if_false, taken more alike]
      · rename_i d positive digit
        obtain ⟨gained, places, count, digits, others, left, rfl, ends, digits_eq⟩ :=
          digits_taken d 0 input
        obtain ⟨gathered, skipped⟩ := digits_eq left (.refl left)
        simp only [gathered, skipped] at h
        obtain ⟨used, rfl, taken⟩ := continued_taken h
        refine ⟨b, digits ++ (others ++ used), by simp only [List.append_assoc],
          fun more alike => ?_⟩
        obtain ⟨gathered, skipped⟩ := digits_eq (used ++ more) (alike.append used)
        obtain ⟨before, rfl⟩ := Nat.exists_eq_succ_of_ne_zero positive
        rw [unsigned, digit]
        simp only [List.append_assoc, gathered, skipped, taken more alike]

end Numeral

end BulkIngest.Json
