/-!
Text as UTF-8 octets. `bytes` and `ofBytes?` are inverse to each other; `Flaw.first?` finds where a
sequence of octets stops being UTF-8, and `repaired` replaces every such place.
-/

namespace BulkIngest

abbrev Bytes := List UInt8

namespace Text

def bytes (s : String) : Bytes := s.toUTF8.data.toList

def ofBytes? (octets : Bytes) : Option String := String.fromUTF8? ⟨octets.toArray⟩

theorem ofBytes?_bytes (s : String) : ofBytes? (bytes s) = some s := by
  simp [ofBytes?, bytes, String.fromUTF8?, String.fromUTF8, s.isValidUTF8]

theorem bytes_append (s t : String) : bytes (s ++ t) = bytes s ++ bytes t := by
  simp [bytes]

theorem bytes_eq_flatMap (s : String) : bytes s = s.toList.flatMap String.utf8EncodeChar := by
  have encoded : s.toUTF8 = (s.toList.flatMap String.utf8EncodeChar).toByteArray :=
    String.utf8Encode_toList.symm
  rw [bytes, encoded, List.toList_data_toByteArray]

theorem bytes_singleton (c : Char) : bytes (String.singleton c) = String.utf8EncodeChar c := by
  rw [bytes_eq_flatMap, String.toList_singleton, List.flatMap_singleton]

/-- What stands at the front of a sequence of octets. -/
inductive Front
  | done
  | character (length : Nat)
  /-- The first `length` octets cannot be continued. -/
  | invalid (length : Nat)
  /-- The sequence ends inside a character. -/
  | incomplete
deriving DecidableEq

private def isTail (b : UInt8) : Bool := 0x80 ≤ b && b ≤ 0xBF

/-- The octets that may follow the first one of a character. -/
private def secondRange (b : UInt8) : UInt8 × UInt8 :=
  if b = 0xE0 then (0xA0, 0xBF)
  else if b = 0xED then (0x80, 0x9F)
  else if b = 0xF0 then (0x90, 0xBF)
  else if b = 0xF4 then (0x80, 0x8F)
  else (0x80, 0xBF)

/-- How many octets the character that starts with `b` has. -/
private def sequenceLength? (b : UInt8) : Option Nat :=
  if b < 0x80 then some 1
  else if 0xC2 ≤ b && b ≤ 0xDF then some 2
  else if 0xE0 ≤ b && b ≤ 0xEF then some 3
  else if 0xF0 ≤ b && b ≤ 0xF4 then some 4
  else none

/-- The octets after the second one, of which `missing` are due. -/
private def tailFront (seen : Nat) : Nat → Bytes → Front
  | 0, _ => .character seen
  | _ + 1, [] => .incomplete
  | missing + 1, b :: rest =>
    if isTail b then tailFront (seen + 1) missing rest else .invalid seen

def front : Bytes → Front
  | [] => .done
  | b :: rest =>
    match sequenceLength? b with
    | none => .invalid 1
    | some 0 | some 1 => .character 1
    | some (missing + 2) =>
      match rest with
      | [] => .incomplete
      | second :: rest =>
        let (low, high) := secondRange b
        if low ≤ second && second ≤ high then tailFront 2 missing rest else .invalid 1

private theorem toNat_octet {n : Nat} (h : n < 256) : (UInt8.ofNat n).toNat = n := by
  rw [UInt8.toNat_ofNat', Nat.mod_eq_of_lt h]

private theorem front_short {b : UInt8} (h : b.toNat < 0x80) (rest : Bytes) :
    front (b :: rest) = .character 1 := by
  have first : sequenceLength? b = some 1 := if_pos (UInt8.lt_iff_toNat_lt.2 h)
  rw [front, first]

private theorem isTail_octet (n : Nat) : isTail (UInt8.ofNat (n % 64 + 128)) = true := by
  have value := toNat_octet (n := n % 64 + 128) (by omega)
  simp only [isTail, Bool.and_eq_true, decide_eq_true_eq, UInt8.le_iff_toNat_le, value]
  exact ⟨by change 128 ≤ _; omega, by change _ ≤ 191; omega⟩

private theorem tailFront_octet (seen missing n : Nat) (rest : Bytes) :
    tailFront seen (missing + 1) (UInt8.ofNat (n % 64 + 128) :: rest) =
      tailFront (seen + 1) missing rest := by
  rw [tailFront, if_pos (isTail_octet n)]

/-- Which two octets may stand in front of `missing` more: overlong forms, surrogates and what lies
beyond the last code point are left out. -/
private def Starts (missing first second : Nat) : Prop :=
  (missing = 0 ∧ 0xC2 ≤ first ∧ first < 0xE0 ∨ missing = 1 ∧ 0xE0 ≤ first ∧ first < 0xF0 ∨
    missing = 2 ∧ 0xF0 ≤ first ∧ first < 0xF5) ∧
  0x80 ≤ second ∧ second < 0xC0 ∧ (first = 0xE0 → 0xA0 ≤ second) ∧ (first = 0xED → second < 0xA0) ∧
    (first = 0xF0 → 0x90 ≤ second) ∧ (first = 0xF4 → second < 0x90)

private theorem front_long {missing first second : Nat} (h : Starts missing first second)
    (rest : Bytes) :
    front (UInt8.ofNat first :: UInt8.ofNat second :: rest) = tailFront 2 missing rest := by
  rw [Starts] at h
  have hf := toNat_octet (n := first) (by omega)
  have hs := toNat_octet (n := second) (by omega)
  have length : sequenceLength? (UInt8.ofNat first) = some (missing + 2) := by
    simp only [sequenceLength?, UInt8.lt_iff_toNat_lt, UInt8.le_iff_toNat_le, hf, UInt8.reduceToNat]
    grind
  have range : (secondRange (UInt8.ofNat first)).1 ≤ UInt8.ofNat second ∧
      UInt8.ofNat second ≤ (secondRange (UInt8.ofNat first)).2 := by
    simp only [secondRange, ← UInt8.toNat_inj, UInt8.le_iff_toNat_le, hf]
    simp only [UInt8.reduceToNat, apply_ite Prod.fst, apply_ite Prod.snd, apply_ite UInt8.toNat, hs]
    grind
  simp only [front, length]
  rw [if_pos (by simpa using range)]

/-- The octets of a character are what stands at the front, whatever comes behind them. -/
theorem front_utf8EncodeChar (c : Char) (rest : Bytes) :
    front (String.utf8EncodeChar c ++ rest) = .character (String.utf8EncodeChar c).length := by
  have valid : c.val.toNat < 55296 ∨ 57343 < c.val.toNat ∧ c.val.toNat < 1114112 := c.valid
  rw [String.utf8EncodeChar.eq_1]
  generalize c.val.toNat = v at valid
  split
  · exact front_short (by rw [toNat_octet] <;> omega) rest
  · split
    · calc front _ = tailFront 2 0 rest := front_long (by rw [Starts]; omega) rest
        _ = .character 2 := rfl
    · split
      · calc front _
          _ = tailFront 2 1 (UInt8.ofNat (v % 64 + 128) :: rest) :=
            front_long (by rw [Starts]; omega) _
          _ = .character 3 := tailFront_octet 2 0 v rest
      · calc front _
          _ =
            tailFront 2 2 (UInt8.ofNat (v / 64 % 64 + 128) :: UInt8.ofNat (v % 64 + 128) :: rest) :=
              front_long (by rw [Starts]; omega) _
          _ = tailFront 3 1 (UInt8.ofNat (v % 64 + 128) :: rest) := tailFront_octet 2 1 (v / 64) _
          _ = .character 4 := tailFront_octet 3 0 v rest

/-- The octets of a character are its own number or lie beyond those of ASCII. -/
theorem toNat_of_mem_utf8EncodeChar {c : Char} {b : UInt8} (h : b ∈ String.utf8EncodeChar c) :
    b.toNat = c.toNat ∨ 0x80 ≤ b.toNat := by
  rw [String.utf8EncodeChar.eq_1] at h
  change b.toNat = c.val.toNat ∨ _
  generalize c.val.toNat = v at h
  have beyond {n : Nat} (low : 0x80 ≤ n) (high : n < 256) : 0x80 ≤ (UInt8.ofNat n).toNat := by
    rwa [toNat_octet high]
  split at h
  · rw [List.mem_singleton.1 h, toNat_octet (by omega)]
    exact .inl rfl
  · right
    split at h
    · simp only [List.mem_cons, List.not_mem_nil, or_false] at h
      obtain rfl | rfl := h <;> exact beyond (by omega) (by omega)
    · split at h <;> simp only [List.mem_cons, List.not_mem_nil, or_false] at h
      · obtain rfl | rfl | rfl := h <;> exact beyond (by omega) (by omega)
      · obtain rfl | rfl | rfl | rfl := h <;> exact beyond (by omega) (by omega)

/-- A place where octets are no UTF-8. -/
inductive Flaw
  | invalid (offset length : Nat)
  | incomplete (offset : Nat)
deriving DecidableEq

namespace Flaw

def offset : Flaw → Nat
  | .invalid offset _ => offset
  | .incomplete offset => offset

def message : Flaw → String
  | .invalid offset length =>
    s!"invalid utf-8 sequence of {length} bytes from index {offset}"
  | .incomplete offset => s!"incomplete utf-8 byte sequence from index {offset}"

private def search (offset skip : Nat) : Bytes → Option Flaw
  | [] => none
  | b :: rest =>
    match skip with
    | skip + 1 => search (offset + 1) skip rest
    | 0 =>
      match front (b :: rest) with
      | .done => none
      | .character length => search (offset + 1) (length - 1) rest
      | .invalid length => some (.invalid offset length)
      | .incomplete => some (.incomplete offset)

/-- The first flaw, if there is one. -/
def first? (octets : Bytes) : Option Flaw := search 0 0 octets

private theorem search_append (offset : Nat) (passed rest : Bytes) :
    search offset passed.length (passed ++ rest) = search (offset + passed.length) 0 rest := by
  induction passed generalizing offset with
  | nil => rfl
  | cons b passed ih =>
      rw [List.length_cons, List.cons_append, search, ih]
      congr 1
      omega

private theorem search_utf8EncodeChar (offset : Nat) (c : Char) (rest : Bytes) :
    search offset 0 (String.utf8EncodeChar c ++ rest) =
      search (offset + (String.utf8EncodeChar c).length) 0 rest := by
  have front := front_utf8EncodeChar c rest
  obtain ⟨b, tail, octets⟩ := List.exists_cons_of_ne_nil (@String.utf8EncodeChar_ne_nil c)
  rw [octets, List.cons_append] at front ⊢
  rw [search, front]
  exact (search_append (offset + 1) tail rest).trans
    (by rw [List.length_cons, Nat.add_assoc, Nat.add_comm 1])

/-- Text has no flaw. -/
theorem first?_bytes (s : String) : first? (bytes s) = none := by
  have from_ (offset : Nat) (cs : List Char) :
      search offset 0 (cs.flatMap String.utf8EncodeChar) = none := by
    induction cs generalizing offset with
    | nil => rfl
    | cons c rest ih => rw [List.flatMap_cons, search_utf8EncodeChar, ih]
  rw [bytes_eq_flatMap, first?, from_]

end Flaw

private def replacement : Bytes := bytes "\uFFFD"

private def repair (skip : Nat) (keep : Bool) : Bytes → Bytes
  | [] => []
  | b :: rest =>
    match skip with
    | skip + 1 => if keep then b :: repair skip keep rest else repair skip keep rest
    | 0 =>
      match front (b :: rest) with
      | .done => []
      | .character length => b :: repair (length - 1) true rest
      | .invalid length => replacement ++ repair (length - 1) false rest
      | .incomplete => replacement

/-- The octets as text, with a replacement character for every flaw. -/
def repaired (octets : Bytes) : String := (ofBytes? (repair 0 true octets)).getD ""

end Text

end BulkIngest
