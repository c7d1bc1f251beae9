import BulkIngest.Proofs.Json.Delimiters

/-!
The texts that are JSON, and that every one of them is passed over. Nobody asks what such a text
says: its numbers may be of any size, its strings need not be text, and it may nest to any depth.
What was passed over may already have taken the blanks that stand behind the text, so the place it
stops at is known up to those.
-/

namespace BulkIngest.Json

namespace Read

/-- One digit or several. -/
def IsDigits (octets : Bytes) : Prop := octets ≠ [] ∧ ∀ b ∈ octets, (digit? b).isSome = true

inductive IsFraction : Bytes → Prop
  | none : IsFraction []
  | some {digits : Bytes} (each : IsDigits digits) : IsFraction (0x2E :: digits)

inductive IsExponent : Bytes → Prop
  | none : IsExponent []
  | some {letter : UInt8} {sign digits : Bytes} (here : Numeral.isExponentLetter letter = true)
      (signed : sign = [] ∨ sign = [0x2B] ∨ sign = [0x2D]) (each : IsDigits digits) :
      IsExponent (letter :: (sign ++ digits))

/-- A number without its sign, whose whole part has no idle zeros. -/
inductive IsNumeral : Bytes → Prop
  | zero {fraction exponent : Bytes} (rational : IsFraction fraction)
      (scaled : IsExponent exponent) :
      IsNumeral (0x30 :: (fraction ++ exponent))
  | positive {b : UInt8} {digits fraction exponent : Bytes} (first : (digit? b).isSome = true)
      (nonzero : b ≠ 0x30)
      (each : ∀ b ∈ digits, (digit? b).isSome = true) (rational : IsFraction fraction)
      (scaled : IsExponent exponent) : IsNumeral (b :: (digits ++ (fraction ++ exponent)))

/-- A string behind its opening quote. -/
inductive StringTail : Bytes → Prop
  | quote : StringTail [0x22]
  | plain {b : UInt8} {tail : Bytes} (no_quote : b ≠ 0x22) (no_backslash : b ≠ 0x5C)
      (visible : ¬b < 0x20)
      (onward : StringTail tail) : StringTail (b :: tail)
  | short {letter octet : UInt8} {tail : Bytes} (meant : shortEscape? letter = some octet)
      (onward : StringTail tail) : StringTail (0x5C :: letter :: tail)
  | unit {a b c d : UInt8} {unit : Nat} {tail : Bytes} (number : unit? a b c d = some unit)
      (onward : StringTail tail) : StringTail (0x5C :: 0x75 :: a :: b :: c :: d :: tail)

/-- A string with blanks around it. -/
inductive IsQuoted : Bytes → Prop
  | quoted {before tail after : Bytes} (blank : Blanks before) (string : StringTail tail)
      (blank' : Blanks after) :
      IsQuoted (before ++ 0x22 :: (tail ++ after))

/-- What stands between brackets or braces, from the first part on or from a later one on: the parts
with a comma between each two of them, or nothing but blanks. -/
inductive Parted : Bool → List Bytes → Bytes → Prop
  | none {first : Bool} {inside : Bytes} (blank : Blanks inside) : Parted first [] inside
  | first {part inside : Bytes} {parts : List Bytes} (onward : Parted false parts inside) :
      Parted true (part :: parts) (part ++ inside)
  | next {part inside : Bytes} {parts : List Bytes} (onward : Parted false parts inside) :
      Parted false (part :: parts) (0x2C :: (part ++ inside))

/-- The part of an object that gives a value under a name. -/
def memberText (field : Bytes × Bytes) : Bytes := field.1 ++ 0x3A :: field.2

/-- A text that is JSON, with blanks wherever they may stand. -/
inductive IsJson : Bytes → Prop
  | null : IsJson (0x6E :: wordNull)
  | yes : IsJson (0x74 :: wordTrue)
  | no : IsJson (0x66 :: wordFalse)
  | positive {octets : Bytes} (number : IsNumeral octets) : IsJson octets
  | negative {octets : Bytes} (number : IsNumeral octets) : IsJson (0x2D :: octets)
  | string {tail : Bytes} (string : StringTail tail) : IsJson (0x22 :: tail)
  | list {parts : List Bytes} {inside : Bytes} (parted : Parted true parts inside)
      (each : ∀ part ∈ parts, IsJson part) : IsJson (0x5B :: (inside ++ [0x5D]))
  | object {fields : List (Bytes × Bytes)} {inside : Bytes}
      (parted : Parted true (fields.map memberText) inside)
      (named : ∀ field ∈ fields, IsQuoted field.1) (each : ∀ field ∈ fields, IsJson field.2) :
      IsJson (0x7B :: (inside ++ [0x7D]))
  | blanks {before octets after : Bytes} (blank : Blanks before) (blank' : Blanks after)
      (core : IsJson octets) :
      IsJson (before ++ (octets ++ after))

section Numerals

open Numeral

variable {digits fraction exponent octets more : Bytes}

theorem eq_zero_of_digit? {b : UInt8} (h : digit? b = some 0) : b = 0x30 := by
  have bounds := digit?_isSome (h ▸ rfl : (digit? b).isSome = true)
  rw [digit?, if_pos (by simpa using bounds), Option.some.injEq] at h
  rw [UInt8.le_iff_toNat_le, UInt8.le_iff_toNat_le] at bounds
  rw [← UInt8.toNat_inj]
  exact Nat.le_antisymm (Nat.sub_eq_zero_iff_le.1 h) bounds.1

theorem skip_digits (each : ∀ b ∈ digits, (digit? b).isSome = true)
    (ends : startsWithDigit more = false)
    (count : Nat) : skip count (digits ++ more) = (count + digits.length, more) := by
  induction digits generalizing count with
  | nil => exact skip_ended ends count
  | cons b digits ih =>
      rw [List.cons_append, skip, if_pos (each b List.mem_cons_self),
        ih (fun c mem => each c (List.mem_cons_of_mem _ mem)), List.length_cons, Nat.add_assoc,
        Nat.add_comm 1]

theorem IsDigits.cases (h : IsDigits digits) :
    ∃ b later, digits = b :: later ∧ (digit? b).isSome = true ∧
      ∀ b ∈ later, (digit? b).isSome = true := by
  obtain ⟨filled, each⟩ := h
  obtain ⟨b, later, rfl⟩ := List.exists_cons_of_ne_nil filled
  exact ⟨b, later, rfl, each b List.mem_cons_self, fun c mem => each c (List.mem_cons_of_mem _ mem)⟩

theorem skipExponent_digits {sign : Bytes} (signed : sign = [] ∨ sign = [0x2B] ∨ sign = [0x2D])
    (each : IsDigits digits) (ends : EndsNumeral more) :
    skipExponent (sign ++ (digits ++ more)) = .ok more := by
  obtain ⟨b, later, rfl, digit, each⟩ := each.cases
  have unsigned : (Numeral.sign (sign ++ (b :: later ++ more))).2 = b :: (later ++ more) := by
    obtain rfl | rfl | rfl := signed
    · rw [List.nil_append, List.cons_append, Numeral.sign.eq_3]
      · rintro rest ⟨rfl, -⟩
        contradiction
      · rintro rest ⟨rfl, -⟩
        contradiction
    · rfl
    · rfl
  rw [skipExponent, unsigned]
  simp only [if_pos digit, skip_digits each (startsWithDigit_ended ends)]

/-- What follows the whole part and the fraction is passed over. -/
theorem skipContinued_exponent (h : IsExponent exponent) (ends : EndsNumeral more) :
    skipContinued (exponent ++ more) = .ok more := by
  cases h with
  | none =>
      cases more with
      | nil => rfl
      | cons b more =>
          obtain ⟨-, noPoint, noLetter⟩ := ends b rfl
          rw [List.nil_append, skipContinued, if_neg noPoint, noLetter]
          rfl
  | @some letter sign digits here signed each =>
      have noPoint : letter ≠ 0x2E := by
        rintro rfl
        contradiction
      rw [List.cons_append, List.append_assoc, skipContinued, if_neg noPoint, if_pos here]
      exact skipExponent_digits signed each ends

/-- Behind the digits of a fraction neither digits nor another point follow. -/
theorem IsExponent.head (h : IsExponent exponent) (ends : EndsNumeral more) :
    ∀ b ∈ (exponent ++ more).head?, digit? b = .none ∧ b ≠ 0x2E := by
  cases h with
  | none => exact fun b mem => ⟨(ends b mem).1, (ends b mem).2.1⟩
  | some here signed each =>
      rintro _ ⟨⟩
      rw [isExponentLetter, Bool.or_eq_true, decide_eq_true_eq, decide_eq_true_eq] at here
      obtain rfl | rfl := here <;> decide

theorem startsWithDigit_exponent (h : IsExponent exponent) (ends : EndsNumeral more) :
    startsWithDigit (exponent ++ more) = false := by
  cases same : exponent ++ more with
  | nil => rfl
  | cons b rest => rw [startsWithDigit, (h.head ends b (by rw [same]; rfl)).1, Option.isSome_none]

theorem startsWithDigit_fraction (h : IsFraction fraction) (h' : IsExponent exponent)
    (ends : EndsNumeral more) :
    startsWithDigit (fraction ++ (exponent ++ more)) = false := by
  cases h with
  | none => simpa using startsWithDigit_exponent h' ends
  | some _ => rfl

theorem skipContinued_fraction (h : IsFraction fraction) (h' : IsExponent exponent)
    (ends : EndsNumeral more) :
    skipContinued (fraction ++ (exponent ++ more)) = .ok more := by
  have scaled := skipContinued_exponent h' ends
  cases h with
  | none => exact scaled
  | some each =>
      obtain ⟨b, later, rfl, -⟩ := each.cases
      rw [List.cons_append, skipContinued, if_pos rfl,
        skip_digits each.2 (startsWithDigit_exponent h' ends), List.length_cons, Nat.zero_add]
      simp only [if_neg (Nat.succ_ne_zero _)]
      cases same : exponent ++ more with
      | nil => rwa [same, skipContinued] at scaled
      | cons c rest =>
          rwa [same, skipContinued, if_neg (h'.head ends c (by rw [same]; rfl)).2] at scaled

theorem IsNumeral.cases (h : IsNumeral octets) :
    ∃ b later, octets = b :: later ∧ (digit? b).isSome = true := by
  cases h with
  | zero _ _ => exact ⟨_, _, rfl, rfl⟩
  | positive first _ _ _ _ => exact ⟨_, _, rfl, first⟩

theorem skipUnsigned_numeral (h : IsNumeral octets) (ends : EndsNumeral more) :
    skipUnsigned (octets ++ more) = .ok more := by
  cases h with
  | zero rational scaled =>
      have stops := startsWithDigit_fraction rational scaled ends
      rw [List.cons_append, List.append_assoc, skipUnsigned]
      simp only [stops, Bool.false_eq_true, if_false]
      exact skipContinued_fraction rational scaled ends
  | @positive b _ _ _ first nonzero each rational scaled =>
      have stops := startsWithDigit_fraction rational scaled ends
      rw [List.cons_append, List.append_assoc, List.append_assoc, skipUnsigned]
      obtain ⟨d, digit⟩ := Option.isSome_iff_exists.1 first
      have positive : d ≠ 0 := by
        rintro rfl
        exact nonzero (eq_zero_of_digit? digit)
      obtain ⟨d, rfl⟩ := Nat.exists_eq_succ_of_ne_zero positive
      simp only [digit, skip_digits each stops]
      exact skipContinued_fraction rational scaled ends

end Numerals

theorem skipString_tail {tail : Bytes} (h : StringTail tail) (more : Bytes) :
    skipString (tail ++ more) = .ok more := by
  induction h with
  | quote =>
      rw [List.singleton_append, skipString.eq_def]
      exact if_pos rfl
  | plain noQuote noBackslash visible _ ih =>
      exact (skipString_plain noQuote noBackslash visible _).trans ih
  | short meant _ ih => exact (skipString_short meant _).trans ih
  | unit number _ ih => exact (skipString_unit number _).trans ih

theorem skipBlanks_front {b : UInt8} {front rest : Bytes} (h : skipBlanks front = b :: rest)
    (more : Bytes) :
    skipBlanks (front ++ more) = b :: (rest ++ more) := by
  induction front with
  | nil => contradiction
  | cons c front ih =>
      rw [skipBlanks] at h
      rw [List.cons_append, skipBlanks]
      split at h
      · rename_i blank
        rw [if_pos blank, ih h]
      · rename_i seen
        rw [if_neg seen, ← List.cons_append, h, List.cons_append]

theorem length_skipBlanks (input : Bytes) : (skipBlanks input).length ≤ input.length := by
  obtain ⟨blanks, -, split⟩ := exists_blanks input
  have length := congrArg List.length split
  rw [List.length_append] at length
  omega

section Parted

variable {first : Bool} {part inside input more : Bytes} {parts : List Bytes}

theorem Parted.endsNumeral (h : Parted false parts inside) (ends : EndsNumeral more) :
    EndsNumeral (inside ++ more) := by
  cases h with
  | none blank => exact blank.endsNumeral ends
  | next _ => exact (delimited_cons (.inl rfl) _).endsNumeral

/-- Where the parts are over, the closing octet comes next. -/
theorem Parted.over {closing : UInt8} (h : Parted first [] inside)
    (single : isBlank closing = false)
    (here : skipBlanks input = skipBlanks (inside ++ closing :: more)) :
    skipBlanks input = closing :: more := by
  cases h with
  | none blank => rw [here, skipBlanks_append blank, skipBlanks, if_neg (by simp [single])]

theorem Parted.next_element {b : UInt8} {rest : Bytes} (h : Parted first (part :: parts) inside)
    (starts : skipBlanks part = b :: rest) (noEnd : b ≠ 0x5D)
    (here : skipBlanks input = skipBlanks (inside ++ more)) :
    ∃ inside', Parted false parts inside' ∧
      hasElement first input = .ok (true, b :: (rest ++ (inside' ++ more))) := by
  cases h with
  | @first _ inside' _ onward =>
      refine ⟨inside', onward, ?_⟩
      rw [List.append_assoc, skipBlanks_front starts] at here
      simp [hasElement, here, noEnd]
  | @next _ inside' _ onward =>
      have comma : isBlank 0x2C = false := rfl
      refine ⟨inside', onward, ?_⟩
      rw [List.cons_append, List.append_assoc] at here
      simp [hasElement, here, skipBlanks, comma, skipBlanks_front starts, noEnd]

theorem Parted.next_name {quoted : Bytes} (h : Parted first (part :: parts) inside)
    (starts : skipBlanks part = 0x22 :: quoted)
    (here : skipBlanks input = skipBlanks (inside ++ more)) :
    ∃ inside', Parted false parts inside' ∧
      hasName first input = .ok (true, quoted ++ (inside' ++ more)) := by
  cases h with
  | @first _ inside' _ onward =>
      refine ⟨inside', onward, ?_⟩
      rw [List.append_assoc, skipBlanks_front starts] at here
      simp [hasName, here]
  | @next _ inside' _ onward =>
      have comma : isBlank 0x2C = false := rfl
      refine ⟨inside', onward, ?_⟩
      rw [List.cons_append, List.append_assoc] at here
      simp [hasName, here, skipBlanks, comma, skipBlanks_front starts]

end Parted

section Passing

variable {calls fuel : Nat} {first : Bool} {frames : List Frame} {input more inside octets : Bytes}

/-- Passing over octets inside the frames comes to what stands before `more`, up to blanks, with
more calls left than there are octets. -/
def Reaches (passing : Except Fault Bytes) (frames : List Frame) (more : Bytes) : Prop :=
  ∃ behind calls fuel, skipBlanks behind = skipBlanks more ∧
    behind.length < calls ∧ behind.length < fuel ∧
    passing = resume calls fuel true frames behind

/-- The octets are passed over up to where they end, unless a number goes on behind them. -/
def Passed (octets : Bytes) : Prop :=
  ∀ ⦃calls : Nat⦄ ⦃frames : List Frame⦄ ⦃input more : Bytes⦄, EndsNumeral more →
    skipBlanks input = skipBlanks (octets ++ more) → input.length < calls →
      Reaches (skipValue calls frames input) frames more

theorem Reaches.congr {passing : Except Fault Bytes} {frames : List Frame} {more more' : Bytes}
    (h : Reaches passing frames more) (same : skipBlanks more = skipBlanks more') :
    Reaches passing frames more' := by
  obtain ⟨behind, calls, fuel, here, enough⟩ := h
  exact ⟨behind, calls, fuel, here.trans same, enough⟩

/-- The list is closed behind its parts, each of which is passed over. -/
theorem reaches_list {parts : List Bytes} (parted : Parted first parts inside)
    (each : ∀ part ∈ parts, StartsValue (skipBlanks part) ∧ Passed part)
    (here : skipBlanks input = skipBlanks (inside ++ 0x5D :: more)) (enough : input.length < calls)
    (enough' : input.length < fuel) :
    Reaches (resume calls fuel (!first) (.list :: frames) input) frames more := by
  induction parts generalizing first inside input calls fuel with
  | nil =>
      have next := parted.over rfl here
      have length := length_skipBlanks input
      rw [next, List.length_cons] at length
      obtain ⟨calls, rfl⟩ := Nat.exists_eq_add_of_le' (by omega : 1 ≤ calls)
      exact ⟨more, calls, fuel, rfl, by omega, by omega, resume_closed next (.inl ⟨rfl, rfl⟩)⟩
  | cons part parts ih =>
      obtain ⟨⟨b, rest, starts, -, noEnd⟩, passed⟩ := each part List.mem_cons_self
      obtain ⟨inside', onward, next⟩ := parted.next_element starts noEnd here
      obtain ⟨calls, rfl⟩ := Nat.exists_eq_add_of_le' (by omega : 1 ≤ calls)
      obtain ⟨behind, front, shorter, same⟩ := resume_element next
      have length := length_skipBlanks input
      have part_front := skipBlanks_front starts (inside' ++ 0x5D :: more)
      obtain ⟨behind', calls', fuel', here', enough, enough', passing⟩ :
          Reaches (skipValue fuel (.list :: frames) behind) (.list :: frames)
            (inside' ++ 0x5D :: more) :=
        passed (onward.endsNumeral (delimited_cons (.inr (.inl rfl)) more).endsNumeral)
          ((front.trans (skipBlanks_eq part_front)).trans part_front.symm) (by omega)
      rw [same, passing]
      exact ih onward (fun part mem => each part (List.mem_cons_of_mem _ mem)) here' enough enough'

/-- A name is passed over up to its colon. -/
theorem IsQuoted.passed {named : Bytes} (h : IsQuoted named) :
    ∃ quoted, skipBlanks named = 0x22 :: quoted ∧
      ∀ more, ∃ between,
        skipString (quoted ++ 0x3A :: more) = .ok between ∧ colon between = .ok more := by
  obtain @⟨before, tail, after, blank, string, blank'⟩ := h
  have quote : isBlank 0x22 = false := rfl
  refine ⟨tail ++ after, ?_, fun more => ⟨after ++ 0x3A :: more, ?_, ?_⟩⟩
  · rw [skipBlanks_append blank, skipBlanks, if_neg (by simp [quote])]
  · rw [List.append_assoc, skipString_tail string]
  · rw [colon, skipBlanks_append blank']
    exact colon_next more

/-- The object is closed behind its members, each of which is passed over. -/
theorem reaches_object {fields : List (Bytes × Bytes)}
    (parted : Parted first (fields.map memberText) inside)
    (named : ∀ field ∈ fields, IsQuoted field.1) (each : ∀ field ∈ fields, Passed field.2)
    (here : skipBlanks input = skipBlanks (inside ++ 0x7D :: more)) (enough : input.length < calls)
    (enough' : input.length < fuel) :
    Reaches (resume calls fuel (!first) (.object :: frames) input) frames more := by
  induction fields generalizing first inside input calls fuel with
  | nil =>
      have next := parted.over rfl here
      have length := length_skipBlanks input
      rw [next, List.length_cons] at length
      obtain ⟨calls, rfl⟩ := Nat.exists_eq_add_of_le' (by omega : 1 ≤ calls)
      exact ⟨more, calls, fuel, rfl, by omega, by omega, resume_closed next (.inr ⟨rfl, rfl⟩)⟩
  | cons field fields ih =>
      obtain ⟨quoted, starts, string⟩ := (named field List.mem_cons_self).passed
      obtain ⟨inside', onward, next⟩ :=
        parted.next_name (skipBlanks_front starts (0x3A :: field.2)) here
      obtain ⟨between, string, separated⟩ := string (field.2 ++ (inside' ++ 0x7D :: more))
      rw [List.append_assoc, List.cons_append] at next
      obtain ⟨before, split, -⟩ := hasName_taken next
      have length := congrArg List.length split
      rw [List.length_append, List.length_append, List.length_cons] at length
      obtain ⟨calls, rfl⟩ := Nat.exists_eq_add_of_le' (by omega : 1 ≤ calls)
      obtain ⟨behind', calls', fuel', here', enough, enough', passing⟩ :
          Reaches (skipValue fuel (.object :: frames) (field.2 ++ (inside' ++ 0x7D :: more)))
            (.object :: frames) (inside' ++ 0x7D :: more) :=
        each field List.mem_cons_self
        (onward.endsNumeral (delimited_cons (.inr (.inr rfl)) more).endsNumeral) rfl
          (by omega)
      rw [resume_member next string separated, passing]
      exact ih onward (fun field mem => named field (List.mem_cons_of_mem _ mem))
        (fun field mem => each field (List.mem_cons_of_mem _ mem)) here' enough enough'

/-- Behind its blanks no text begins with the end of a list. -/
theorem IsJson.starts (h : IsJson octets) : StartsValue (skipBlanks octets) := by
  have first {b : UInt8} {later : Bytes} (seen : isBlank b = false) (noEnd : b ≠ 0x5D) :
      StartsValue (skipBlanks (b :: later)) := by
    rw [skipBlanks, if_neg (by simp [seen])]
    exact ⟨b, later, rfl, seen, noEnd⟩
  induction h with
  | null | yes | no | negative _ | string _ | list _ _ _ | object _ _ _ =>
      exact first rfl (by decide)
  | positive number =>
      obtain ⟨b, later, rfl, digit⟩ := number.cases
      obtain ⟨⟨seen, -⟩, -, -, -, -, noEnd⟩ := digit_distinct digit
      exact first seen noEnd
  | blanks blank _ _ ih =>
      obtain ⟨b, later, same, seen, noEnd⟩ := ih
      rw [skipBlanks_append blank, skipBlanks_front same]
      exact ⟨b, _, rfl, seen, noEnd⟩

/-- A value that is passed over in one call. -/
theorem passed_leaf {b : UInt8} {later : Bytes} (seen : isBlank b = false)
    (step : ∀ {fuel frames input more}, EndsNumeral more → skipBlanks input = b :: (later ++ more) →
      skipValue (fuel + 1) frames input = resume (fuel + 1) fuel true frames more) :
    Passed (b :: later) := by
  intro calls frames input more ends here enough
  have next : skipBlanks input = b :: (later ++ more) := by
    rw [here, List.cons_append, skipBlanks, if_neg (by simp [seen])]
  have length := length_skipBlanks input
  rw [next, List.length_cons, List.length_append] at length
  obtain ⟨fuel, rfl⟩ := Nat.exists_eq_add_of_le' (by omega : 1 ≤ calls)
  exact ⟨more, fuel + 1, fuel, rfl, by omega, by omega, step ends next⟩

/-- A list or an object is passed over from its opening to its closing octet. -/
theorem passed_nested {opening closing : UInt8} {frame : Frame} (seen : isBlank opening = false)
    (opens : ∀ {fuel frames input rest}, skipBlanks input = opening :: rest →
      skipValue (fuel + 1) frames input = resume (fuel + 1) fuel false (frame :: frames) rest)
    (onward : ∀ {frames calls fuel more}, (inside ++ closing :: more).length < calls →
      (inside ++ closing :: more).length < fuel →
      Reaches (resume calls fuel false (frame :: frames) (inside ++ closing :: more)) frames more) :
    Passed (opening :: (inside ++ [closing])) := by
  intro calls frames input more ends here enough
  have next : skipBlanks input = opening :: (inside ++ closing :: more) := by
    rw [here, List.cons_append, skipBlanks, if_neg (by simp [seen]), List.append_assoc,
      List.singleton_append]
  have length := length_skipBlanks input
  rw [next, List.length_cons] at length
  obtain ⟨fuel, rfl⟩ := Nat.exists_eq_add_of_le' (by omega : 1 ≤ calls)
  rw [opens next]
  exact onward (by omega) (by omega)

/-- Every text that is JSON is passed over, by induction on the text. -/
theorem IsJson.passed (h : IsJson octets) : Passed octets := by
  induction h with
  | null | yes | no =>
      refine passed_leaf rfl fun _ next => ?_
      rw [skipValue_succ, next]
      rfl
  | positive number =>
      obtain ⟨b, later, rfl, digit⟩ := number.cases
      obtain ⟨⟨seen, -⟩, noNull, noTrue, noFalse, noMinus, -⟩ := digit_distinct digit
      refine passed_leaf seen fun ends next => ?_
      have passed := skipUnsigned_numeral number ends
      rw [skipValue_succ, next]
      simp only [if_neg noNull, if_neg noTrue, if_neg noFalse, if_neg noMinus, if_pos digit]
      rw [← List.cons_append, passed, ok_bind]
  | negative number =>
      refine passed_leaf rfl fun ends next => ?_
      rw [skipValue_succ, next]
      exact congrArg (· >>= _) (skipUnsigned_numeral number ends)
  | string string =>
      refine passed_leaf rfl fun {_ _ _ more} _ next => ?_
      rw [skipValue_succ, next]
      exact congrArg (· >>= _) (skipString_tail string more)
  | list parted each ih =>
      refine passed_nested rfl (fun next => ?_) fun enough enough' =>
        reaches_list parted (fun part mem => ⟨(each part mem).starts, ih part mem⟩) rfl
        enough enough'
      rw [skipValue_succ, next]
      rfl
  | object parted named each ih =>
      refine passed_nested rfl (fun next => ?_) fun enough enough' =>
        reaches_object parted named ih rfl enough enough'
      rw [skipValue_succ, next]
      rfl
  | blanks blank blank' core ih =>
      intro calls frames input more ends here enough
      rw [List.append_assoc, skipBlanks_append blank, List.append_assoc] at here
      exact (ih (blank'.endsNumeral ends) here enough).congr (skipBlanks_append blank' more)

end Passing

end Read

end BulkIngest.Json
