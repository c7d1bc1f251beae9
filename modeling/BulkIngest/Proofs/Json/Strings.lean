import Mathlib.Tactic.SplitIfs
import BulkIngest.Json.Printer
import BulkIngest.Json.Reader

/-!
Strings are read back as they were written. The argument goes by characters: whatever was read
before and whatever comes behind, the written form of a character adds the octets of that character.
No written form holds a quote that is not behind a backslash or an octet below a space, so nothing
in a string can end it or end the line it stands on.
-/

namespace BulkIngest.Json

open Text

/-- No control characters, and so no end of a line. -/
def Visible (octets : Bytes) : Prop := ∀ b ∈ octets, ¬ b < 0x20

instance (octets : Bytes) : Decidable (Visible octets) :=
  List.decidableBAll (¬ · < 0x20) octets

theorem Visible.cons {b : UInt8} {octets : Bytes} (hb : ¬ b < 0x20) (h : Visible octets) :
    Visible (b :: octets) :=
  List.forall_mem_cons.2 ⟨hb, h⟩

theorem Visible.append {front back : Bytes} (hf : Visible front) (hb : Visible back) :
    Visible (front ++ back) := by
  intro b mem
  exact (List.mem_append.1 mem).elim (hf b) (hb b)

/-- Octets that stand for themselves inside a string. -/
def IsPlain (octets : Bytes) : Prop := ∀ b ∈ octets, ¬ b < 0x20 ∧ b ≠ 0x22 ∧ b ≠ 0x5C

theorem isPlain_utf8EncodeChar {c : Char} (noQuote : c ≠ '"') (noBackslash : c ≠ '\\')
    (visible : ¬ c.toNat < 0x20) : IsPlain (String.utf8EncodeChar c) := by
  have number {d : Char} (h : c ≠ d) : c.toNat ≠ d.toNat := fun same => h (Char.toNat_inj.1 same)
  have notQuote : c.toNat ≠ 0x22 := number noQuote
  have notBackslash : c.toNat ≠ 0x5C := number noBackslash
  intro b mem
  have octet := toNat_of_mem_utf8EncodeChar mem
  simp only [UInt8.lt_iff_toNat_lt, ne_eq, ← UInt8.toNat_inj, UInt8.reduceToNat]
  omega

theorem hexDigit?_hexDigit (n : Nat) :
    ∃ octet, String.utf8EncodeChar (hexDigit n) = [octet] ∧ ¬ octet < 0x20 ∧
      Read.hexDigit? octet = some (n % 16) := by
  have digits : ∀ d < 16, String.utf8EncodeChar (Nat.digitChar d) = [(Nat.digitChar d).toUInt8] ∧
      ¬ (Nat.digitChar d).toUInt8 < 0x20 ∧ Read.hexDigit? (Nat.digitChar d).toUInt8 = some d := by
    decide
  exact ⟨_, digits (n % 16) (Nat.mod_lt n (by decide))⟩

/-- How a character is written inside a string: with a letter behind a backslash, as the number of a
control character, or as it is. -/
inductive Written (c : Char) : Bytes → Prop
  | short {letter octet : UInt8} (visible : ¬ letter < 0x20)
      (meant : Read.shortEscape? letter = some octet)
      (single : String.utf8EncodeChar c = [octet]) : Written c [0x5C, letter]
  | numbered {high low : UInt8} (visible : ¬ high < 0x20 ∧ ¬ low < 0x20) (control : c.toNat < 0x20)
      (number : Read.unit? 0x30 0x30 high low = some c.toNat) :
      Written c [0x5C, 0x75, 0x30, 0x30, high, low]
  | plain (plain : IsPlain (String.utf8EncodeChar c)) : Written c (String.utf8EncodeChar c)

theorem written_numbered {c : Char} (control : c.toNat < 0x20) :
    Written c (bytes ("\\u00" ++ String.ofList [hexDigit (c.toNat / 16), hexDigit c.toNat])) := by
  obtain ⟨high, highOctets, highVisible, highDigit⟩ := hexDigit?_hexDigit (c.toNat / 16)
  obtain ⟨low, lowOctets, lowVisible, lowDigit⟩ := hexDigit?_hexDigit c.toNat
  have escape : bytes "\\u00" = [0x5C, 0x75, 0x30, 0x30] := rfl
  have digits : bytes (String.ofList [hexDigit (c.toNat / 16), hexDigit c.toNat]) =
    [high, low] := by
    rw [bytes_eq_flatMap, String.toList_ofList, List.flatMap_cons, List.flatMap_singleton,
      highOctets, lowOctets, List.singleton_append]
  have zero : Read.hexDigit? 0x30 = some 0 := rfl
  rw [bytes_append, escape, digits]
  refine .numbered ⟨highVisible, lowVisible⟩ control ?_
  simp only [Read.unit?, zero, highDigit, lowDigit, bind, Option.bind, pure]
  congr 1
  omega

theorem written_escaped (c : Char) : Written c (bytes (escaped c)) := by
  have short {text : String} {d : Char} {letter octet : UInt8} (same : c = d)
      (written : bytes text = [0x5C, letter]) (visible : ¬ letter < 0x20)
      (meant : Read.shortEscape? letter = some octet) (single : String.utf8EncodeChar d = [octet]) :
      Written c (bytes text) := by
    rw [written]
    exact .short visible meant (same ▸ single)
  rw [escaped]
  split_ifs with quote backslash newline return_ tab backspace formFeed control
  · exact short quote rfl (by decide) rfl rfl
  · exact short backslash rfl (by decide) rfl rfl
  · exact short newline rfl (by decide) rfl rfl
  · exact short return_ rfl (by decide) rfl rfl
  · exact short tab rfl (by decide) rfl rfl
  · exact short backspace rfl (by decide) rfl rfl
  · exact short formFeed rfl (by decide) rfl rfl
  · exact written_numbered control
  · rw [Char.toString, bytes_singleton]
    exact .plain (isPlain_utf8EncodeChar quote backslash control)

theorem Written.visible {c : Char} {octets : Bytes} (h : Written c octets) : Visible octets := by
  cases h with
  | short visible => simpa [Visible] using visible
  | numbered visible => simpa [Visible] using visible
  | plain plain => exact fun b mem => (plain b mem).1

namespace Read

theorem stringBytes_octet {b : UInt8} (noQuote : b ≠ 0x22) (noBackslash : b ≠ 0x5C)
    (visible : ¬ b < 0x20)
    (done rest : Bytes) : stringBytes done (b :: rest) = stringBytes (b :: done) rest := by
  rw [stringBytes.eq_def]
  simp only [if_neg noQuote, if_neg noBackslash, if_neg visible]

theorem stringBytes_plain {octets : Bytes} (h : IsPlain octets) (done rest : Bytes) :
    stringBytes done (octets ++ rest) = stringBytes (octets.reverse ++ done) rest := by
  induction octets generalizing done with
  | nil => rfl
  | cons b octets ih =>
      obtain ⟨visible, noQuote, noBackslash⟩ := h b List.mem_cons_self
      have later : IsPlain octets := fun b mem => h b (List.mem_cons_of_mem _ mem)
      rw [List.cons_append, stringBytes_octet noQuote noBackslash visible, ih later,
        List.reverse_cons, List.append_assoc, List.singleton_append]

theorem stringBytes_short {letter octet : UInt8} (meant : shortEscape? letter = some octet)
    (done rest : Bytes) :
    stringBytes done (0x5C :: letter :: rest) = stringBytes (octet :: done) rest := by
  rw [stringBytes.eq_def]
  simp [meant]

/-- A unit that is no surrogate is a character of its own. -/
theorem stringBytes_unit {a b c d : UInt8} {unit : Nat} (number : unit? a b c d = some unit)
    (notTrailing : isTrailing unit = false) (notLeading : isLeading unit = false)
    (done rest : Bytes) :
    stringBytes done (0x5C :: 0x75 :: a :: b :: c :: d :: rest) =
      stringBytes (push unit done) rest := by
  have noShort : shortEscape? 0x75 = none := rfl
  rw [stringBytes.eq_def]
  simp [noShort, number, notTrailing, notLeading]

/-- Two surrogates are one character together. -/
theorem stringBytes_pair {a b c d e f g h : UInt8} {unit second : Nat}
    (number : unit? a b c d = some unit)
    (notTrailing : isTrailing unit = false) (leading : isLeading unit = true)
    (number' : unit? e f g h = some second) (trailing : isTrailing second = true)
    (done rest : Bytes) :
    stringBytes done
      (0x5C :: 0x75 :: a :: b :: c :: d :: 0x5C :: 0x75 :: e :: f :: g :: h :: rest) =
      stringBytes (push ((unit - 0xD800) * 0x400 + (second - 0xDC00) + 0x10000) done) rest := by
  have noShort : shortEscape? 0x75 = none := rfl
  rw [stringBytes.eq_def]
  simp [noShort, number, notTrailing, leading, number', trailing]

/-- Inside a string the written form of a character is read as that character. -/
theorem stringBytes_written {c : Char} {octets : Bytes} (h : Written c octets) (done rest : Bytes) :
    stringBytes done (octets ++ rest) =
      stringBytes ((String.utf8EncodeChar c).reverse ++ done) rest := by
  cases h with
  | short _ meant single =>
      rw [single]
      exact stringBytes_short meant done rest
  | numbered _ control number =>
      have pushed : push c.toNat done = (String.utf8EncodeChar c).reverse ++ done := by
        rw [push, Char.ofNat_toNat, Char.toString, bytes_singleton]
      have notTrailing : isTrailing c.toNat = false := by simp [isTrailing]; omega
      have notLeading : isLeading c.toNat = false := by simp [isLeading]; omega
      rw [← pushed]
      exact stringBytes_unit number notTrailing notLeading done rest
  | plain plain => exact stringBytes_plain plain done rest

end Read

/-- What stands between the quotes of a written string. -/
def inner (cs : List Char) : Bytes := cs.flatMap fun c => bytes (escaped c)

theorem bytes_quoted (s : String) : bytes (quoted s) = 0x22 :: (inner s.toList ++ [0x22]) := by
  have folded (cs : List Char) (text : String) :
      bytes (cs.foldl (fun text c => text ++ escaped c) text) = bytes text ++ inner cs := by
    induction cs generalizing text with
    | nil => exact (List.append_nil _).symm
    | cons c rest ih =>
        rw [List.foldl_cons, ih, bytes_append, List.append_assoc]
        rfl
  rw [quoted, bytes_append, bytes_append, folded]
  rfl

theorem visible_quoted (s : String) : Visible (bytes (quoted s)) := by
  have between : Visible (inner s.toList) := by
    intro b mem
    obtain ⟨c, -, mem⟩ := List.mem_flatMap.1 mem
    exact (written_escaped c).visible b mem
  rw [bytes_quoted]
  exact .cons (by decide) (between.append (by decide))

namespace Read

theorem stringBytes_inner (cs : List Char) (done rest : Bytes) :
    stringBytes done (inner cs ++ 0x22 :: rest) =
      .ok (done.reverse ++ cs.flatMap String.utf8EncodeChar, rest) := by
  induction cs generalizing done with
  | nil =>
      rw [stringBytes.eq_def]
      simp [inner]
  | cons c cs ih =>
      have split : inner (c :: cs) ++ 0x22 :: rest =
        bytes (escaped c) ++ (inner cs ++ 0x22 :: rest) :=
        List.append_assoc ..
      rw [split, stringBytes_written (written_escaped c), ih, List.reverse_append,
        List.reverse_reverse, List.flatMap_cons, List.append_assoc]

/-- A written string is read back as far as its closing quote, whatever comes behind. -/
theorem string_inner (s : String) (rest : Bytes) :
    string (inner s.toList ++ 0x22 :: rest) = .ok (s, rest) := by
  rw [string, stringBytes_inner, List.reverse_nil, List.nil_append, ← bytes_eq_flatMap]
  simp only [ofBytes?_bytes]

end Read

end BulkIngest.Json
