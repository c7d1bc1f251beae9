import BulkIngest.Proofs.Json.Strings

/-!
Whole numbers are read back as they were written. Their digits are gathered without a gap, since a
number of 64 bits never outgrows the significand on the way, and what may follow a value in a text
ends them.
-/

namespace BulkIngest.Json

open Text

/-- What follows a value inside a text, or at its end. -/
def Delimited (rest : Bytes) : Prop := ∀ b ∈ rest.head?, b = 0x2C ∨ b = 0x5D ∨ b = 0x7D

theorem delimited_cons {b : UInt8} (h : b = 0x2C ∨ b = 0x5D ∨ b = 0x7D) (rest : Bytes) :
    Delimited (b :: rest) := by
  intro c same
  rwa [← Option.some.inj same]

theorem Delimited.digit? {b : UInt8} {rest : Bytes} (h : Delimited (b :: rest)) :
    digit? b = none := by
  obtain rfl | rfl | rfl := h b rfl <;> rfl

theorem digit?_isSome {b : UInt8} (h : (digit? b).isSome = true) : 0x30 ≤ b ∧ b ≤ 0x39 := by
  rw [digit?] at h
  split at h
  · rename_i bounds
    simpa using bounds
  · contradiction

/-- The octets of the digits of a number. -/
def digitOctets (n : Nat) : Bytes := (Nat.toDigits 10 n).flatMap String.utf8EncodeChar

theorem bytes_natText (n : Nat) : bytes (toString n) = digitOctets n := by
  rw [bytes_eq_flatMap, Nat.toString_eq_ofList_toDigits, String.toList_ofList, digitOctets]

/-- A digit is one octet, which is read as its value. -/
theorem digit?_of_isDigit {c : Char} (h : c.isDigit = true) :
    ∃ octet, String.utf8EncodeChar c = [octet] ∧ digit? octet = some (c.toNat - '0'.toNat) := by
  simp only [Char.isDigit, Bool.and_eq_true, decide_eq_true_eq, ge_iff_le,
    UInt32.le_iff_toNat_le] at h
  have low : 0x30 ≤ c.val.toNat := h.1
  have high : c.val.toNat ≤ 0x39 := h.2
  refine ⟨UInt8.ofNat c.val.toNat, ?_, ?_⟩
  · rw [String.utf8EncodeChar.eq_1, if_pos (by omega)]
  · have octet : (UInt8.ofNat c.val.toNat).toNat = c.val.toNat := by
      rw [UInt8.toNat_ofNat', Nat.mod_eq_of_lt (by omega)]
    have bounds : (0x30 ≤ UInt8.ofNat c.val.toNat && UInt8.ofNat c.val.toNat ≤ 0x39) = true := by
      simp only [Bool.and_eq_true, decide_eq_true_eq, UInt8.le_iff_toNat_le, octet,
        UInt8.reduceToNat]
      omega
    rw [digit?, if_pos bounds, octet]
    rfl

theorem isDigit_of_mem {n : Nat} : ∀ c ∈ Nat.toDigits 10 n, c.isDigit = true := fun _ mem =>
  Nat.isDigit_of_mem_toDigits (by decide) (by decide) mem

/-- Every digit of a number is one octet, and there is at least one. -/
theorem digitOctets_eq_cons (n : Nat) :
    ∃ octet more, digitOctets n = octet :: more ∧ (digit? octet).isSome = true := by
  obtain ⟨c, cs, written⟩ := List.exists_cons_of_ne_nil (Nat.toDigits_ne_nil (n := n) (b := 10))
  obtain ⟨octet, single, value⟩ :=
    digit?_of_isDigit (isDigit_of_mem c (written ▸ List.mem_cons_self : c ∈ Nat.toDigits 10 n))
  refine ⟨octet, cs.flatMap String.utf8EncodeChar, ?_, by rw [value, Option.isSome_some]⟩
  rw [digitOctets, written, List.flatMap_cons, single, List.singleton_append]

theorem visible_digitOctets (n : Nat) : Visible (digitOctets n) := by
  intro b mem
  obtain ⟨c, digit, mem⟩ := List.mem_flatMap.1 mem
  obtain ⟨octet, single, value⟩ := digit?_of_isDigit (isDigit_of_mem c digit)
  obtain rfl : b = octet := by rwa [single, List.mem_singleton] at mem
  have bounds := digit?_isSome (by rw [value, Option.isSome_some])
  exact fun control => absurd (UInt8.lt_of_le_of_lt bounds.1 control) (by decide)

/-- No number but zero starts with the digit zero. -/
theorem leadingDigit {n : Nat} (positive : 0 < n) {c : Char} {cs : List Char}
    (written : Nat.toDigits 10 n = c :: cs) : c.toNat - '0'.toNat ≠ 0 := by
  induction n using Nat.strongRecOn generalizing c cs with
  | ind n ih =>
      rw [Nat.toDigits_eq_if (by decide)] at written
      split at written
      · rename_i single
        have digits : ∀ d < 10, 0 < d → d.digitChar.toNat - '0'.toNat ≠ 0 := by decide
        rw [← (List.cons.inj written).1]
        exact digits n single positive
      · obtain ⟨first, more, front⟩ :=
          List.exists_cons_of_ne_nil (Nat.toDigits_ne_nil (n := n / 10) (b := 10))
        rw [front, List.cons_append] at written
        rw [← (List.cons.inj written).1]
        exact ih (n / 10) (by omega) (by omega) front

namespace Numeral

theorem skip_delimited {rest : Bytes} (ends : Delimited rest) (count : Nat) :
    skip count rest = (count, rest) := by
  cases rest with
  | nil => rfl
  | cons b rest => rw [skip, if_neg (by rw [ends.digit?]; decide)]

theorem startsWithDigit_delimited {rest : Bytes} (ends : Delimited rest) :
    startsWithDigit rest = false := by
  cases rest with
  | nil => rfl
  | cons b rest => rw [startsWithDigit, ends.digit?, Option.isSome_none]

theorem continued_delimited {rest : Bytes} (ends : Delimited rest) (negative : Bool)
    (significand : Nat) :
    continued negative significand 0 rest = whole negative significand rest := by
  cases rest with
  | nil => rw [continued, if_pos rfl]
  | cons b rest => obtain rfl | rfl | rfl := ends b rfl <;> simp [continued, isExponentLetter]

/-- Digits are gathered up to what ends them, if all of them fit. -/
theorem gather_digits {cs : List Char} (digits : ∀ c ∈ cs, c.isDigit = true)
    (significand places : Nat)
    (small : Nat.ofDigitChars 10 cs significand < 18446744073709551616) {rest : Bytes}
    (ends : Delimited rest) :
    gather significand places (cs.flatMap String.utf8EncodeChar ++ rest) =
      (Nat.ofDigitChars 10 cs significand, places + cs.length, rest) := by
  induction cs generalizing significand places with
  | nil =>
      cases rest with
      | nil => rfl
      | cons b rest => 
          rw [List.flatMap_nil, List.nil_append, gather, ends.digit?]
          rfl
  | cons c cs ih =>
      obtain ⟨octet, single, value⟩ := digit?_of_isDigit (digits c List.mem_cons_self)
      rw [Nat.ofDigitChars_cons, Nat.mul_comm] at small ⊢
      have fits : significand * 10 + (c.toNat - '0'.toNat) < 18446744073709551616 := by
        rw [Nat.ofDigitChars_eq_ofDigitChars_zero] at small
        have grows := Nat.le_mul_of_pos_left (significand * 10 + (c.toNat - '0'.toNat))
          (Nat.pow_pos (n := cs.length) (show 0 < 10 by decide))
        omega
      rw [List.flatMap_cons, single, List.append_assoc, List.singleton_append, gather, value]
      simp only [if_pos fits]
      rw [ih (fun c mem => digits c (List.mem_cons_of_mem _ mem)) _ _ small, List.length_cons,
        Nat.add_assoc, Nat.add_comm 1]

/-- The digits of a number behind its sign are read as that number. -/
theorem unsigned_digitOctets (negative : Bool) {n : Nat} (small : n < 18446744073709551616)
    {rest : Bytes} (ends : Delimited rest) :
    unsigned negative (digitOctets n ++ rest) = whole negative n rest := by
  rcases Nat.eq_zero_or_pos n with rfl | positive
  · have zero : digitOctets 0 = [0x30] := rfl
    have digit : digit? 0x30 = some 0 := rfl
    rw [zero, List.singleton_append, unsigned, digit]
    simp only [startsWithDigit_delimited ends]
    exact continued_delimited ends negative 0
  · have digits := isDigit_of_mem (n := n)
    obtain ⟨c, cs, written⟩ := List.exists_cons_of_ne_nil (Nat.toDigits_ne_nil (n := n) (b := 10))
    have value : Nat.ofDigitChars 10 cs (c.toNat - '0'.toNat) = n := by
      have all := Nat.ofDigitChars_ten_toDigits (n := n)
      rwa [written, Nat.ofDigitChars_cons, Nat.mul_zero, Nat.zero_add] at all
    rw [written] at digits
    obtain ⟨octet, single, digit⟩ := digit?_of_isDigit (digits c List.mem_cons_self)
    have gathered := gather_digits (fun c mem => digits c (List.mem_cons_of_mem _ mem))
      (c.toNat - '0'.toNat) 0
      (by rwa [value]) ends
    obtain ⟨before, leading⟩ := Nat.exists_eq_succ_of_ne_zero (leadingDigit positive written)
    rw [value, leading] at gathered
    rw [digitOctets, written, List.flatMap_cons, single, List.append_assoc, List.singleton_append,
      unsigned, digit, leading]
    simp only [gathered, skip_delimited ends]
    exact continued_delimited ends negative n

theorem unsigned_ofNat {n : Nat} (small : n < 18446744073709551616) {rest : Bytes}
    (ends : Delimited rest) :
    unsigned false (digitOctets n ++ rest) = .ok (.whole (.ofNat n small), rest) := by
  rw [unsigned_digitOctets false small ends, whole, if_neg Bool.false_ne_true, dif_pos small]

theorem unsigned_ofNeg {n : Nat} (positive : 0 < n) (small : n ≤ 9223372036854775808) {rest : Bytes}
    (ends : Delimited rest) :
    unsigned true (digitOctets n ++ rest) = .ok (.whole (.ofNeg n small), rest) := by
  rw [unsigned_digitOctets true (by omega) ends, whole, if_pos rfl, dif_pos ⟨positive, small⟩]

end Numeral

/-- A whole number is written as its digits, or as a minus sign and then its digits. -/
theorem bytes_wholeText (n : Whole) :
    (∃ m h, n = .ofNat m h ∧ bytes (Number.whole n).text = digitOctets m) ∨
      (∃ m h, 0 < m ∧ n = .ofNeg m h ∧ bytes (Number.whole n).text = 0x2D :: digitOctets m) := by
  obtain ⟨value, ge_min, lt_max⟩ := n
  cases value with
  | ofNat m =>
      exact .inl ⟨m, Int.ofNat_lt.1 lt_max, rfl, bytes_natText m⟩
  | negSucc m =>
      refine .inr ⟨m + 1, by omega, by omega, rfl, ?_⟩
      exact (bytes_append "-" (toString (m + 1))).trans (congrArg _ (bytes_natText (m + 1)))

end BulkIngest.Json
