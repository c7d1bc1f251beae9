import BulkIngest.Proofs.Json.Extents
import BulkIngest.Source.File

/-!
Text without the blanks at its ends, seen from its octets. What is blank in JSON is blank in any
text and has an octet of its own, so where an object is read from a text the blanks around it can be
taken off before, and so can a carriage return at the end of a line.
-/

namespace BulkIngest

open Json

namespace Text

open Read (Blanks)

section

variable {cs : List Char} {octets rest blanks : Bytes} {b : UInt8}

/-- A character is its own octet if it has one of ASCII. -/
theorem utf8EncodeChar_of_ascii {c : Char} (mem : b ∈ String.utf8EncodeChar c) (ascii : b < 0x80) :
    c.toNat = b.toNat ∧ String.utf8EncodeChar c = [b] := by
  have small : b.toNat < 0x80 := UInt8.lt_iff_toNat_lt.mp ascii
  have same : c.toNat = b.toNat := by
    have octet := toNat_of_mem_utf8EncodeChar mem
    omega
  have number : c.val.toNat = b.toNat := same
  refine ⟨same, ?_⟩
  rw [String.utf8EncodeChar.eq_1, if_pos (by omega), number, UInt8.ofNat_toNat]

theorem encoded_cons (h : cs.flatMap String.utf8EncodeChar = b :: rest) (ascii : b < 0x80) :
    ∃ c cs', cs = c :: cs' ∧ c.toNat = b.toNat ∧ cs'.flatMap String.utf8EncodeChar = rest := by
  cases cs with
  | nil => contradiction
  | cons c cs =>
      obtain ⟨first, others, encoded⟩ :=
        List.exists_cons_of_ne_nil (@String.utf8EncodeChar_ne_nil c)
      rw [List.flatMap_cons, encoded, List.cons_append] at h
      obtain ⟨rfl, later⟩ := List.cons.inj h
      obtain ⟨same, single⟩ := utf8EncodeChar_of_ascii (encoded ▸ List.mem_cons_self) ascii
      rw [single] at encoded
      obtain ⟨-, rfl⟩ := List.cons.inj encoded
      exact ⟨c, cs, rfl, same, later⟩

theorem encoded_concat (h : cs.flatMap String.utf8EncodeChar = octets ++ [b]) (ascii : b < 0x80) :
    ∃ cs' c, cs = cs' ++ [c] ∧ c.toNat = b.toNat ∧ cs'.flatMap String.utf8EncodeChar = octets := by
  rcases List.eq_nil_or_concat cs with rfl | ⟨cs, c, rfl⟩
  · exact absurd h.symm (List.append_ne_nil_of_right_ne_nil octets (List.cons_ne_nil b []))
  · rw [List.concat_eq_append, List.flatMap_append, List.flatMap_singleton] at h
    rcases List.eq_nil_or_concat (String.utf8EncodeChar c) with none | ⟨others, last, encoded⟩
    · exact absurd none String.utf8EncodeChar_ne_nil
    · rw [List.concat_eq_append] at encoded
      rw [encoded, ← List.append_assoc, List.append_singleton_inj] at h
      obtain ⟨before, rfl⟩ := h
      have mem : last ∈ String.utf8EncodeChar c := by simp [encoded]
      obtain ⟨same, single⟩ := utf8EncodeChar_of_ascii mem ascii
      have alone : [] ++ [last] = others ++ [last] := single ▸ encoded
      obtain ⟨rfl, -⟩ := List.append_singleton_inj.mp alone
      exact ⟨cs, c, List.concat_eq_append, same, by rw [← before, List.append_nil]⟩

/-- What is blank in JSON is blank in any text. -/
theorem isBlank_of_octet {c : Char} (blank : Read.isBlank b = true) (same : c.toNat = b.toNat) :
    isBlank c = true := by
  have cases_ : b.toNat = 0x20 ∨ b.toNat = 0x0A ∨ b.toNat = 0x09 ∨ b.toNat = 0x0D := by
    simpa [Read.isBlank, ← UInt8.toNat_inj, or_assoc] using blank
  rw [isBlank, same]
  rcases cases_ with number | number | number | number <;> rw [number] <;> rfl

theorem ascii_of_blank (blank : Read.isBlank b = true) : b < 0x80 := by
  have cases_ : b = 0x20 ∨ b = 0x0A ∨ b = 0x09 ∨ b = 0x0D := by
    simpa [Read.isBlank, or_assoc] using blank
  rcases cases_ with rfl | rfl | rfl | rfl <;> decide

theorem encoded_after_blanks (h : cs.flatMap String.utf8EncodeChar = blanks ++ rest)
    (blank : Blanks blanks) :
    ∃ lead cs', cs = lead ++ cs' ∧ (∀ c ∈ lead, isBlank c = true) ∧
      cs'.flatMap String.utf8EncodeChar = rest := by
  induction blanks generalizing cs with
  | nil => exact ⟨[], cs, rfl, List.forall_mem_nil _, h⟩
  | cons b blanks ih =>
      obtain ⟨first, later⟩ := List.forall_mem_cons.mp blank
      obtain ⟨c, cs, rfl, same, behind⟩ := encoded_cons h (ascii_of_blank first)
      obtain ⟨lead, cs, rfl, blanks, encoded⟩ := ih behind later
      exact ⟨c :: lead, cs, rfl, List.forall_mem_cons.mpr ⟨isBlank_of_octet first same, blanks⟩,
        encoded⟩

theorem encoded_before_blanks (h : cs.flatMap String.utf8EncodeChar = octets ++ blanks)
    (blank : Blanks blanks) :
    ∃ cs' trail, cs = cs' ++ trail ∧ (∀ c ∈ trail, isBlank c = true) ∧
      cs'.flatMap String.utf8EncodeChar = octets := by
  induction blanks generalizing octets with
  | nil =>
      exact ⟨cs, [], (List.append_nil cs).symm, List.forall_mem_nil _,
        h.trans (List.append_nil octets)⟩
  | cons b blanks ih =>
      obtain ⟨first, later⟩ := List.forall_mem_cons.mp blank
      rw [List.append_cons] at h
      obtain ⟨before, trail, rfl, blanks, encoded⟩ := ih h later
      obtain ⟨cs, c, rfl, same, encoded⟩ := encoded_concat encoded (ascii_of_blank first)
      exact ⟨cs, c :: trail, (List.append_cons ..).symm,
        List.forall_mem_cons.mpr ⟨isBlank_of_octet first same, blanks⟩, encoded⟩

end

section

variable {lead cs trail : List Char}

theorem exists_trimmedList (cs : List Char) :
    ∃ lead trail, cs = lead ++ (trimmedList cs ++ trail) ∧ (∀ c ∈ lead, isBlank c = true) ∧
      ∀ c ∈ trail, isBlank c = true := by
  have parted (cs : List Char) : ∃ lead, cs = lead ++ cs.dropWhile isBlank ∧
    ∀ c ∈ lead, isBlank c = true :=
    ⟨cs.takeWhile isBlank, List.takeWhile_append_dropWhile.symm,
      List.all_eq_true.mp List.all_takeWhile⟩
  obtain ⟨lead, front, blanks⟩ := parted cs
  obtain ⟨trail, back, blanks'⟩ := parted (cs.dropWhile isBlank).reverse
  refine ⟨lead, trail.reverse, ?_, blanks, fun c mem => blanks' c (List.mem_reverse.mp mem)⟩
  rw [trimmedList, ← List.reverse_append, ← back, List.reverse_reverse]
  exact front

/-- Nothing is trimmed between characters that are no blanks. -/
theorem trimmedList_between {first last : Char} (hf : isBlank first = false)
    (hl : isBlank last = false) (between : List Char) :
    trimmedList (first :: (between ++ [last])) = first :: (between ++ [last]) := by
  rw [trimmedList, List.dropWhile_cons_of_neg (by rw [hf]; exact Bool.false_ne_true),
    List.reverse_cons, List.reverse_append, List.reverse_singleton, List.singleton_append,
    List.cons_append, List.dropWhile_cons_of_neg (by rw [hl]; exact Bool.false_ne_true),
    List.reverse_cons, List.reverse_append, List.reverse_reverse, List.reverse_singleton,
    List.singleton_append, List.cons_append]

theorem trimmedList_within (blanks : ∀ c ∈ lead, isBlank c = true)
    (blanks' : ∀ c ∈ trail, isBlank c = true)
    (cs : List Char) : trimmedList (lead ++ (cs ++ trail)) = trimmedList cs := by
  have atEnd (cs : List Char) : ((cs ++ trail).reverse.dropWhile isBlank) =
    cs.reverse.dropWhile isBlank := by
    rw [List.reverse_append, List.dropWhile_append_of_pos fun c mem =>
      blanks' c (List.mem_reverse.mp mem)]
  rw [trimmedList, List.dropWhile_append_of_pos blanks, List.dropWhile_append]
  split
  · rename_i blank
    rw [List.isEmpty_iff] at blank
    have passed : (trail ++ []).dropWhile isBlank = [] := List.dropWhile_append_of_pos blanks'
    rw [List.append_nil] at passed
    rw [trimmedList, blank, passed]
  · rw [atEnd, trimmedList]

end

/-- Text of characters that separate words. -/
def Blank (text : String) : Prop := ∀ c ∈ text.toList, isBlank c = true

instance (text : String) : Decidable (Blank text) :=
  List.decidableBAll (isBlank · = true) text.toList

theorem blank_empty : Blank "" := by decide

theorem trimmed_within {before after : String} (blank : Blank before) (blank' : Blank after)
    (text : String) :
    trimmed (before ++ text ++ after) = trimmed text := by
  rw [trimmed, String.toList_append, String.toList_append, List.append_assoc,
    trimmedList_within blank blank', trimmed]

theorem exists_trimmed (text : String) :
    ∃ before after, text = before ++ trimmed text ++ after ∧ Blank before ∧ Blank after := by
  obtain ⟨lead, trail, split, blank, blank'⟩ := exists_trimmedList text.toList
  refine ⟨.ofList lead, .ofList trail, ?_, by rwa [Blank, String.toList_ofList],
    by rwa [Blank, String.toList_ofList]⟩
  rw [trimmed, ← String.ofList_append, ← String.ofList_append, List.append_assoc, ← split,
    String.ofList_toList]

theorem isEmpty_trimmed {text : String} : (trimmed text).isEmpty = true ↔ Blank text := by
  constructor
  · intro empty
    obtain ⟨before, after, split, blank, blank'⟩ := exists_trimmed text
    rw [String.isEmpty_iff.mp empty, String.append_empty] at split
    intro c mem
    rw [split, String.toList_append] at mem
    exact (List.mem_append.mp mem).elim (blank c) (blank' c)
  · intro blank
    have within := trimmed_within blank blank_empty ""
    rw [String.append_empty, String.append_empty] at within
    rw [within]
    rfl

/-- An object is what its text stands for without the blanks around it. -/
theorem ofBytes_trimmed {text : String} {d : Document}
    (h : Value.ofBytes (bytes text) = .ok (.object d)) :
    Value.ofBytes (bytes (trimmed text)) = .ok (.object d) := by
  obtain ⟨before, octets, after, split, blank, blank', braced, alone⟩ := Value.ofBytes_cases h
  obtain ⟨inside, rfl⟩ := braced d rfl
  rw [bytes_eq_flatMap] at split
  obtain ⟨lead, cs, front, leading, encoded⟩ := encoded_after_blanks split blank
  obtain ⟨object, trail, rfl, trailing, encoded⟩ := encoded_before_blanks encoded blank'
  obtain ⟨first, more, rfl, opening, behind⟩ := encoded_cons encoded (by decide)
  obtain ⟨between, last, rfl, closing, -⟩ := encoded_concat behind (by decide)
  have opened : isBlank first = false := by rw [isBlank, opening]; rfl
  have closed : isBlank last = false := by rw [isBlank, closing]; rfl
  rw [trimmed, front, trimmedList_within leading trailing, trimmedList_between opened closed,
    bytes_eq_flatMap, String.toList_ofList, encoded]
  exact alone

theorem lines_append {line : Bytes} (unbroken : 0x0A ∉ line) (rest : Bytes) :
    lines (line ++ 0x0A :: rest) = (line ++ [0x0A]) :: lines rest := by
  induction line with
  | nil => rw [List.nil_append, lines, if_pos rfl, List.nil_append]
  | cons b line ih =>
      obtain ⟨other, later⟩ := List.ne_and_not_mem_of_not_mem_cons unbroken
      rw [List.cons_append, lines, if_neg (Ne.symm other), ih later]
      rfl

/-- What is not ended is one line, unless it is nothing. -/
theorem lines_unended {line : Bytes} (unbroken : 0x0A ∉ line) :
    lines line = if line = [] then [] else [line] := by
  induction line with
  | nil => rfl
  | cons b line ih =>
      obtain ⟨other, later⟩ := List.ne_and_not_mem_of_not_mem_cons unbroken
      rw [lines, if_neg (Ne.symm other), ih later, if_neg (List.cons_ne_nil _ _)]
      cases line with
      | nil => rfl
      | cons c line => rfl

theorem unbroken_bytes {line : String} (unbroken : '\n' ∉ line.toList) : 0x0A ∉ bytes line := by
  intro mem
  rw [bytes_eq_flatMap] at mem
  obtain ⟨c, member, octet⟩ := List.mem_flatMap.mp mem
  obtain ⟨number, -⟩ := utf8EncodeChar_of_ascii octet (by decide)
  obtain rfl : c = '\n' := Char.toNat_inj.mp number
  exact unbroken member

/-- A line is bared to itself, or it ends with a carriage return, which is blank. -/
theorem bareLine_newline (line : String) :
    ∃ text, bareLine (bytes line ++ [0x0A]) = bytes text ∧ trimmed text = trimmed line := by
  rw [bareLine, List.reverse_append, List.reverse_singleton, List.singleton_append]
  split
  · rename_i rest reversed
    have split : bytes line = rest.reverse ++ [0x0D] := by
      rw [← List.reverse_reverse (bytes line), (List.cons.inj reversed).2, List.reverse_cons]
    rw [bytes_eq_flatMap] at split
    obtain ⟨cs, c, characters, number, encoded⟩ := encoded_concat split (by decide)
    obtain rfl : c = '\r' := Char.toNat_inj.mp number
    refine ⟨.ofList cs, by rw [bytes_eq_flatMap, String.toList_ofList, encoded], ?_⟩
    have ending : Blank "\r" := by decide
    have whole : line = "" ++ String.ofList cs ++ "\r" := by
      rw [← String.toList_inj, characters]
      simp
    rw [whole, trimmed_within blank_empty ending]
  · rename_i rest _ reversed
    exact ⟨line, by rw [← (List.cons.inj reversed).2, List.reverse_reverse], rfl⟩
  · rename_i other
    exact absurd rfl (other (bytes line).reverse)

theorem bareLine_unended {line : Bytes} (unbroken : 0x0A ∉ line) : bareLine line = line := by
  have last (rest : Bytes) : line.reverse ≠ 0x0A :: rest := by
    intro reversed
    refine unbroken (List.mem_reverse.mp ?_)
    rw [reversed]
    exact List.mem_cons_self
  rw [bareLine]
  split
  · exact absurd ‹_› (last _)
  · exact absurd ‹_› (last _)
  · rfl

end Text

end BulkIngest
