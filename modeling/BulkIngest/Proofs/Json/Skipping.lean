import BulkIngest.Proofs.Json.Beginnings

/-!
What is passed over is what would have been read. Whoever passes over a value looks at less of it
than a reader does, so where the reader finds a value both stop behind the same octets.
-/

namespace BulkIngest.Json

namespace Numeral

variable {negative zero positive : Bool} {significand places count dropped digits : Nat}
    {start : Int}
  {input rest : Bytes} {n : Number} {o : Option Nat}

theorem skip_rest (count : Nat) (input : Bytes) : (skip count input).2 = (skip 0 input).2 := by
  induction input generalizing count with
  | nil => rfl
  | cons b rest ih =>
      simp only [skip]
      split
      · rw [ih (count + 1), ih (0 + 1)]
      · rfl

theorem le_skip (count : Nat) (input : Bytes) : count ≤ (skip count input).1 := by
  induction input generalizing count with
  | nil => exact Nat.le_refl count
  | cons b rest ih =>
      simp only [skip]
      split
      · exact Nat.le_of_succ_le (ih (count + 1))
      · exact Nat.le_refl count

theorem skip_ne_zero (digit : startsWithDigit input = true) : (skip 0 input).1 ≠ 0 := by
  cases input with
  | nil => contradiction
  | cons b rest =>
      have counted := le_skip (0 + 1) rest
      have digit : (digit? b).isSome = true := digit
      rw [skip, if_pos digit]
      omega

/-- The digits that no longer fit are passed over afterwards. -/
theorem skip_gather (significand places count : Nat) (input : Bytes) :
    (skip count (gather significand places input).2.2).2 = (skip 0 input).2 := by
  induction input generalizing significand places with
  | nil => rfl
  | cons b rest ih =>
      cases digit : digit? b with
      | none => simp [gather, skip, digit]
      | some d =>
          simp only [gather, digit]
          split
          · rw [ih, skip, digit, Option.isSome_some, if_pos rfl, skip_rest (0 + 1)]
          · exact skip_rest count _

theorem startsWithDigit_of_gather (gained : places < (gather significand places input).2.1) :
    startsWithDigit input = true := by
  cases input with
  | nil => exact (Nat.lt_irrefl places gained).elim
  | cons b rest =>
      cases digit : digit? b with
      | none => simp [gather, digit] at gained
      | some d => simp [startsWithDigit, digit]

theorem le_gather (significand places : Nat) (input : Bytes) :
    places ≤ (gather significand places input).2.1 := by
  induction input generalizing significand places with
  | nil => exact Nat.le_refl places
  | cons b rest ih =>
      cases digit : digit? b with
      | none => simp [gather, digit]
      | some d =>
          simp only [gather, digit]
          split
          · exact Nat.le_of_succ_le (ih _ (places + 1))
          · exact Nat.le_refl places

theorem gather_of_places_eq (kept : (gather significand places input).2.1 = places) :
    (gather significand places input).2.2 = input := by
  cases input with
  | nil => rfl
  | cons b rest =>
      cases digit : digit? b with
      | none => simp [gather, digit]
      | some d =>
          simp only [gather, digit] at kept ⊢
          split
          · rename_i fits
            rw [if_pos fits] at kept
            have counted := le_gather (significand * 10 + d) (places + 1) rest
            omega
          · rfl

theorem rest_of_signed {x : Option Binary64} (h : signed negative input x = .ok (n, rest)) :
    rest = input := by
  cases x with
  | none => contradiction
  | some x =>
      rw [signed, Except.ok.injEq, Prod.mk.injEq] at h
      exact h.2.symm

theorem rest_of_float (h : float negative significand start input = .ok (n, rest)) : rest = input :=
  rest_of_signed h

theorem rest_of_whole (h : whole negative significand input = .ok (n, rest)) : rest = input := by
  rw [whole] at h
  split at h <;> split at h
  · rw [Except.ok.injEq, Prod.mk.injEq] at h
    exact h.2.symm
  · exact rest_of_float h
  · rw [Except.ok.injEq, Prod.mk.injEq] at h
    exact h.2.symm
  · exact rest_of_float h

theorem skip_digit {b : UInt8} {d : Nat} (digit : digit? b = some d) (rest : Bytes) :
    (skip 0 (b :: rest)).2 = (skip 0 rest).2 := by
  rw [skip, digit, Option.isSome_some, if_pos rfl, skip_rest (0 + 1)]

theorem rest_of_exponentDigits
    (h : exponentDigits negative zero positive count input = .ok (o, rest)) :
    rest = (skip 0 input).2 := by
  induction input generalizing count with
  | nil =>
      simp only [exponentDigits, Except.ok.injEq, Prod.mk.injEq] at h
      exact h.2.symm
  | cons b input ih =>
      cases digit : digit? b with
      | none =>
          simp only [exponentDigits, digit, Except.ok.injEq, Prod.mk.injEq] at h
          simp [skip, digit, h.2]
      | some d =>
          rw [skip_digit digit]
          simp only [exponentDigits, digit] at h
          split at h
          · exact ih h
          · split at h
            · contradiction
            · simp only [Except.ok.injEq, Prod.mk.injEq] at h
              exact h.2.symm

theorem skipExponent_of_exponent (h : exponent negative significand start input = .ok (n, rest)) :
    skipExponent input = .ok rest := by
  rw [exponent] at h
  rw [skipExponent]
  generalize sign input = signed at h ⊢
  obtain ⟨positive, behind⟩ := signed
  cases behind with
  | nil => contradiction
  | cons b behind =>
      cases digit : digit? b with
      | none =>
          simp only [digit] at h
          contradiction
      | some d =>
          simp only [digit] at h
          simp only [digit, Option.isSome_some, if_true, Except.ok.injEq]
          split at h
          · contradiction
          · rename_i read
            rw [← rest_of_exponentDigits read]
            simp only [Except.ok.injEq, Prod.mk.injEq] at h
            exact h.2
          · rename_i read
            rw [← rest_of_exponentDigits read]
            exact (rest_of_float h).symm

theorem skipContinued_of_fraction
    (h : fraction negative significand dropped input = .ok (n, rest)) :
    skipContinued (0x2E :: input) = .ok rest := by
  simp only [fraction] at h
  split at h
  · split at h <;> contradiction
  · rename_i digits
    have digit : startsWithDigit input = true := by
      by_cases kept : (gather significand 0 input).2.1 = 0
      · rw [gather_of_places_eq kept] at digits
        simpa [kept] using digits
      · exact startsWithDigit_of_gather (Nat.pos_of_ne_zero kept)
    rw [skip_gather] at h
    rw [skipContinued, if_pos rfl]
    simp only [if_neg (skip_ne_zero digit)]
    split at h
    · rw [rest_of_float h]
    · split at h
      · rename_i letter
        rw [if_pos letter]
        exact skipExponent_of_exponent h
      · rename_i letter
        rw [if_neg letter, rest_of_float h]

theorem skipContinued_of_continued
    (h : continued negative significand dropped input = .ok (n, rest)) :
    skipContinued input = .ok rest := by
  cases input with
  | nil =>
      simp only [continued] at h
      split at h
      · rw [rest_of_whole h]
        rfl
      · rw [rest_of_float h]
        rfl
  | cons b input =>
      simp only [continued] at h
      split at h
      · rename_i point
        rw [point]
        exact skipContinued_of_fraction h
      · rename_i noPoint
        simp only [skipContinued, if_neg noPoint]
        split at h
        · rename_i letter
          rw [if_pos letter]
          exact skipExponent_of_exponent h
        · rename_i letter
          rw [if_neg letter]
          split at h
          · rw [rest_of_whole h]
          · rw [rest_of_float h]

/-- A number is passed over as far as it is read. -/
theorem skipUnsigned_of_unsigned (h : unsigned negative input = .ok (n, rest)) :
    skipUnsigned input = .ok rest := by
  cases input with
  | nil => contradiction
  | cons b input =>
      simp only [unsigned] at h
      simp only [skipUnsigned]
      split at h
      · contradiction
      · split at h
        · contradiction
        · rename_i ends
          rw [if_neg ends]
          exact skipContinued_of_continued h
      · rename_i d positive digit
        rw [skip_gather] at h
        exact skipContinued_of_continued h

end Numeral

namespace Read

variable {done input octets rest : Bytes} {a b c d letter : UInt8} {unit : Nat}

theorem skipString_short {octet : UInt8} (short : shortEscape? letter = some octet) (rest : Bytes) :
    skipString (0x5C :: letter :: rest) = skipString rest := by
  rw [skipString.eq_def]
  simp [short]

theorem skipString_unit (number : unit? a b c d = some unit) (rest : Bytes) :
    skipString (0x5C :: 0x75 :: a :: b :: c :: d :: rest) = skipString rest := by
  have noShort : shortEscape? 0x75 = none := rfl
  rw [skipString.eq_def]
  simp [noShort, number]

theorem skipString_plain (noQuote : b ≠ 0x22) (noBackslash : b ≠ 0x5C) (visible : ¬b < 0x20)
    (rest : Bytes) :
    skipString (b :: rest) = skipString rest := by
  rw [skipString.eq_def]
  simp only [if_neg noQuote, if_neg noBackslash, if_neg visible]

/-- A string is over, or it goes on behind a piece that is passed over too. -/
theorem stringBytes_cases (h : stringBytes done input = .ok (octets, rest)) :
    (input = 0x22 :: rest ∧ octets = done.reverse) ∨
      ∃ done' piece behind, input = piece ++ behind ∧ piece ≠ [] ∧
        stringBytes done' behind = .ok (octets, rest) ∧
        ∀ more, stringBytes done (piece ++ more) = stringBytes done' more ∧
          skipString (piece ++ more) = skipString more := by
  rw [stringBytes.eq_def] at h
  split at h
  · contradiction
  · rename_i b behind
    split at h
    · rename_i quote
      rw [Except.ok.injEq, Prod.mk.injEq] at h
      exact .inl ⟨by rw [quote, h.2], h.1.symm⟩
    · rename_i noQuote
      split at h
      · rename_i backslash
        subst backslash
        split at h
        · contradiction
        · rename_i letter behind
          split at h
          · rename_i short
            exact .inr ⟨_, [0x5C, letter], behind, rfl, List.cons_ne_nil _ _, h, fun more =>
              ⟨stringBytes_short short done more, skipString_short short more⟩⟩
          · split at h
            · contradiction
            · rename_i unicode
              rw [ne_eq, Decidable.not_not] at unicode
              subst unicode
              split at h
              · rename_i a b c d behind
                split at h
                · contradiction
                · rename_i number
                  split at h
                  · contradiction
                  · rename_i notTrailing
                    rw [Bool.not_eq_true] at notTrailing
                    split at h
                    · -- a pair of units stands for one character, and each of them is passed over
                      rename_i leading
                      split at h
                      · contradiction
                      · split at h <;> contradiction
                      · split at h
                        · contradiction
                        · rename_i backslash
                          rw [ne_eq, Decidable.not_not] at backslash
                          subst backslash
                          split at h
                          · contradiction
                          · rename_i unicode
                            rw [ne_eq, Decidable.not_not] at unicode
                            subst unicode
                            split at h
                            · rename_i e f g i behind
                              split at h
                              · contradiction
                              · rename_i number'
                                split at h
                                · rename_i trailing
                                  exact .inr ⟨_, [0x5C, 0x75, a, b, c, d, 0x5C, 0x75, e, f, g, i],
                                    behind, rfl, List.cons_ne_nil _ _, h, fun more =>
                                    ⟨stringBytes_pair number notTrailing leading number' trailing
                                      done more, (skipString_unit number _).trans
                                      (skipString_unit number' more)⟩⟩
                                · contradiction
                            · contradiction
                    · rename_i notLeading
                      rw [Bool.not_eq_true] at notLeading
                      exact .inr ⟨_, [0x5C, 0x75, a, b, c, d], behind, rfl, List.cons_ne_nil _ _, h,
                        fun more =>
                        ⟨stringBytes_unit number notTrailing notLeading done more,
                          skipString_unit number more⟩⟩
              · contradiction
      · rename_i noBackslash
        split at h
        · contradiction
        · rename_i visible
          exact .inr ⟨_, [b], behind, rfl, List.cons_ne_nil _ _, h, fun more =>
            ⟨stringBytes_octet noQuote noBackslash visible done more,
              skipString_plain noQuote noBackslash visible more⟩⟩

/-- A string takes the same octets whatever comes behind them, and they are passed over too. -/
theorem stringBytes_taken (h : stringBytes done input = .ok (octets, rest)) :
    ∃ used, input = used ++ rest ∧
      ∀ more, stringBytes done (used ++ more) = .ok (octets, more) ∧
        skipString (used ++ more) = .ok more := by
  -- the induction is on the number of octets, since an escape takes several of them at once
  generalize size : input.length = n
  induction n using Nat.strongRecOn generalizing done input with
  | ind n ih =>
      rcases stringBytes_cases h with ⟨rfl, rfl⟩ | ⟨done', piece, behind, rfl, nonempty,
        later, same⟩
      · refine ⟨[0x22], rfl, fun more => ⟨?_, ?_⟩⟩
        · rw [List.singleton_append, stringBytes.eq_def]
          exact if_pos rfl
        · rw [List.singleton_append, skipString.eq_def]
          exact if_pos rfl
      · have shorter : behind.length < n := by
          rw [← size, List.length_append]
          exact Nat.lt_add_of_pos_left (List.length_pos_iff.mpr nonempty)
        obtain ⟨used, rfl, taken⟩ := ih behind.length shorter later rfl
        refine ⟨piece ++ used, (List.append_assoc ..).symm, fun more => ?_⟩
        rw [List.append_assoc, (same _).1, (same _).2]
        exact taken more

theorem string_taken {s : String} (h : string input = .ok (s, rest)) :
    ∃ used, input = used ++ rest ∧
      ∀ more, string (used ++ more) = .ok (s, more) ∧ skipString (used ++ more) = .ok more := by
  rw [string] at h
  split at h
  · contradiction
  · rename_i read
    split at h
    · rename_i text
      rw [Except.ok.injEq, Prod.mk.injEq] at h
      obtain ⟨rfl, rfl⟩ := h
      obtain ⟨used, input_eq, taken⟩ := stringBytes_taken read
      exact ⟨used, input_eq, fun more =>
        ⟨by simp only [string, (taken more).1, text], (taken more).2⟩⟩
    · contradiction

theorem skipString_of_string {s : String} (h : string input = .ok (s, rest)) :
    skipString input = .ok rest := by
  obtain ⟨used, rfl, taken⟩ := string_taken h
  exact (taken rest).2

section Values

variable {fuel depth calls left : Nat} {first comma : Bool} {done : List Value} {names : Members}
  {frames : List Frame} {input front rest out : Bytes} {v : Value}

/-- What happens behind a value that is passed over, inside the frames. -/
def resume (calls fuel : Nat) (comma : Bool) (frames : List Frame) (input : Bytes) :
    Except Fault Bytes :=
  match skipAfter calls comma frames input with
  | .error fault => .error fault
  | .ok (none, rest) => .ok rest
  | .ok (some frames, rest) => skipValue fuel frames rest

theorem skipValue_succ (fuel : Nat) (frames : List Frame) (input : Bytes) :
    skipValue (fuel + 1) frames input =
      match skipBlanks input with
      | [] => failNext .endOfValue []
      | b :: rest =>
        if b = 0x6E then word wordNull rest >>= resume (fuel + 1) fuel true frames
        else if b = 0x74 then word wordTrue rest >>= resume (fuel + 1) fuel true frames
        else if b = 0x66 then word wordFalse rest >>= resume (fuel + 1) fuel true frames
        else if b = 0x2D then Numeral.skipUnsigned rest >>= resume (fuel + 1) fuel true frames
        else if (digit? b).isSome then
          Numeral.skipUnsigned (b :: rest) >>= resume (fuel + 1) fuel true frames
        else if b = 0x22 then skipString rest >>= resume (fuel + 1) fuel true frames
        else if b = 0x5B then resume (fuel + 1) fuel false (.list :: frames) rest
        else if b = 0x7B then resume (fuel + 1) fuel false (.object :: frames) rest
        else failNext .expectedValue (b :: rest) := by
  rw [skipValue.eq_def]
  rfl

theorem exists_calls (h : resume calls fuel comma frames input = .ok out) :
    ∃ less, calls = less + 1 := by
  cases calls with
  | zero => contradiction
  | succ less => exact ⟨less, rfl⟩

theorem resume_closed {frame : Frame} {closing : UInt8} {behind : Bytes}
    (next : skipBlanks input = closing :: behind)
    (fits : (closing = 0x5D ∧ frame = .list) ∨ (closing = 0x7D ∧ frame = .object)) :
    resume (calls + 1) fuel comma (frame :: frames) input =
      resume calls fuel true frames behind := by
  rw [resume, skipAfter, next]
  rcases fits with ⟨rfl, rfl⟩ | ⟨rfl, rfl⟩ <;> simp [resume]

theorem resume_element (more : hasElement first input = .ok (true, front)) :
    ∃ behind, skipBlanks behind = skipBlanks front ∧ behind.length ≤ (skipBlanks input).length ∧
      ∀ calls fuel frames,
        resume (calls + 1) fuel (!first) (.list :: frames) input =
          skipValue fuel (.list :: frames) behind := by
  rcases hasElement_cases more with ⟨never, -⟩ | ⟨-, rfl, b, behind, next, noEnd, rfl⟩ |
    ⟨-, rfl, behind, next, rfl⟩
  · contradiction
  · exact ⟨_, rfl, next ▸ Nat.le_refl _, fun _ _ _ => by simp [resume, skipAfter, next, noEnd]⟩
  · exact ⟨behind, (skipBlanks_skipBlanks behind).symm, next ▸ Nat.le_succ _,
      fun _ _ _ => by simp [resume, skipAfter, next]⟩

theorem resume_member {between start : Bytes} (more : hasName first input = .ok (true, front))
    (named : skipString front = .ok between) (separated : colon between = .ok start) :
    resume (calls + 1) fuel (!first) (.object :: frames) input =
      skipValue fuel (.object :: frames) start := by
  rw [resume, skipAfter]
  rcases hasName_cases more with ⟨never, -⟩ | ⟨-, rfl, next⟩ | ⟨-, rfl, behind, next, quote⟩
  · contradiction
  · simp [next, skipBlanks_eq next, named, separated]
  · simp [next, quote, named, separated]

/-- Whatever reading so many calls deep finds is passed over up to the same place, also inside
frames. -/
structure PassesOver (fuel : Nat) : Prop where
  value :
    ∀ {depth : Nat} {input front rest out : Bytes} {v : Value} {calls : Nat} {frames : List Frame},
    value fuel depth input = .ok (v, rest) → skipBlanks front = skipBlanks input →
    skipValue calls frames front = .ok out →
    ∃ calls left, resume calls left true frames rest = .ok out
  elements : ∀ {depth : Nat} {first : Bool} {done : List Value} {input rest out : Bytes} {v : Value}
    {calls left : Nat} {frames : List Frame}, elements fuel depth first done input = .ok (v, rest) →
    resume calls left (!first) (.list :: frames) input = .ok out →
    ∃ calls left, resume calls left true frames rest = .ok out
  members : ∀ {depth : Nat} {first : Bool} {done : Members} {input rest out : Bytes} {v : Value}
    {calls left : Nat} {frames : List Frame}, members fuel depth first done input = .ok (v, rest) →
    resume calls left (!first) (.object :: frames) input = .ok out →
    ∃ calls left, resume calls left true frames rest = .ok out

theorem PassesOver.begins (h : PassesOver fuel) {octets : Bytes}
    (read : Begins fuel depth octets v rest)
    (start : skipBlanks front = octets) (passing : skipValue calls frames front = .ok out) :
    ∃ calls left, resume calls left true frames rest = .ok out := by
  cases calls with
  | zero => contradiction
  | succ calls =>
      rw [skipValue_succ, start] at passing
      cases read with
      | null ends | yes ends | no ends => exact ⟨_, _, by simpa [ends, ok_bind] using passing⟩
      | negative ends =>
          exact ⟨_, _, by simpa [Numeral.skipUnsigned_of_unsigned ends, ok_bind] using passing⟩
      | positive digit ends =>
          obtain ⟨-, noNull, noTrue, noFalse, noMinus, -⟩ := digit_distinct digit
          exact ⟨_, _, by
            simpa [noNull, noTrue, noFalse, noMinus, digit, Numeral.skipUnsigned_of_unsigned ends,
              ok_bind] using passing⟩
      | string ends =>
          exact ⟨_, _, by simpa [digit?, skipString_of_string ends, ok_bind] using passing⟩
      | list ends => exact h.elements ends (by simpa [digit?] using passing)
      | object ends => exact h.members ends (by simpa [digit?] using passing)

theorem passesOver (fuel : Nat) : PassesOver fuel := by
  induction fuel with
  | zero =>
      refine ⟨fun read => ?_, fun read => ?_, fun read => ?_⟩
      · obtain ⟨_, never, -⟩ := begins_of_value read
        contradiction
      · obtain ⟨_, never, -⟩ := elements_cases read
        contradiction
      · obtain ⟨_, never, -⟩ := members_cases read
        contradiction
  | succ fuel ih =>
      refine ⟨fun read same passing => ?_, fun read passing => ?_, fun read passing => ?_⟩
      · obtain ⟨_, less, begins⟩ := begins_of_value read
        obtain rfl := Nat.succ.inj less
        exact ih.begins begins same passing
      · obtain ⟨_, rfl⟩ := exists_calls passing
        obtain ⟨_, less, ⟨next, -⟩ | ⟨front, w, left, more, element, later⟩⟩ :=
          elements_cases read <;>
          obtain rfl := Nat.succ.inj less
        · exact ⟨_, _, resume_closed next (.inl ⟨rfl, rfl⟩) ▸ passing⟩
        · obtain ⟨behind, same, -, onward⟩ := resume_element more
          rw [onward] at passing
          obtain ⟨calls, left, passing⟩ := ih.value element same passing
          exact ih.elements later passing
      · obtain ⟨_, rfl⟩ := exists_calls passing
        obtain ⟨_, less,
          ⟨next, -⟩ | ⟨front, name, between, start, w, left, more, named, separated, member,
            later⟩⟩ := members_cases read <;> obtain rfl := Nat.succ.inj less
        · exact ⟨_, _, resume_closed next (.inr ⟨rfl, rfl⟩) ▸ passing⟩
        · rw [resume_member more (skipString_of_string named) separated] at passing
          obtain ⟨calls, left, passing⟩ := ih.value member rfl passing
          exact ih.members later passing

/-- Where a value is read, passing over it stops behind the same octets. -/
theorem ignored_of_value (read : value fuel depth input = .ok (v, rest))
    (passed : ignored input = .ok ((), out)) : out = rest := by
  obtain ⟨out', passing, same⟩ := map_eq_ok passed
  obtain ⟨calls, left, passing⟩ := (passesOver fuel).value read rfl passing
  obtain ⟨_, rfl⟩ := exists_calls passing
  have ended : rest = out' := by simpa [resume, skipAfter] using passing
  rw [← (Prod.mk.inj same).2, ended]

end Values

end Read

end BulkIngest.Json
