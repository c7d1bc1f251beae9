import Mathlib.Data.List.Pairwise
import BulkIngest.Proofs.Json.Numerals

/-!
Values are read back as they were written, whatever delimiter comes behind them. The induction is on
a value that can be written without loss: its numbers are whole, the members of its objects ascend
by name, and it nests only so deep. Inside a list or an object a second induction goes over what
follows the first element. A text is longer than half the calls that reading it takes, so the bound
on those is never met.
-/

namespace BulkIngest.Json

open Text

namespace Value

/-- What can be written without loss and nests at most `levels` deep. -/
inductive Regular : Nat → Value → Prop
  | null {levels : Nat} : Regular levels .null
  | boolean {levels : Nat} (b : Bool) : Regular levels (.boolean b)
  | whole {levels : Nat} (n : Whole) : Regular levels (.number (.whole n))
  | string {levels : Nat} (s : String) : Regular levels (.string s)
  | array {levels : Nat} {elements : List Value} (each : ∀ v ∈ elements, Regular levels v) :
      Regular (levels + 1) (.array elements)
  | object {levels : Nat} {members : Members} (ascending : members.Pairwise (·.1 < ·.1))
      (each : ∀ member ∈ members, Regular levels member.2) : Regular (levels + 1) (.object members)

/-- What may nest so deep may nest deeper. -/
theorem Regular.mono {levels more : Nat} {v : Value} (h : v.Regular levels) (le : levels ≤ more) :
    v.Regular more := by
  induction h generalizing more with
  | null => exact .null
  | boolean b => exact .boolean b
  | whole n => exact .whole n
  | string s => exact .string s
  | array each ih =>
      obtain ⟨below, rfl⟩ := Nat.exists_eq_add_of_le' (by omega : 1 ≤ more)
      exact .array fun v mem => ih v mem (by omega)
  | object ascending each ih =>
      obtain ⟨below, rfl⟩ := Nat.exists_eq_add_of_le' (by omega : 1 ≤ more)
      exact .object ascending fun member mem => ih member mem (by omega)

theorem bytes_elementsText (v : Value) (rest : List Value) :
    bytes (elementsText (v :: rest)) = 0x2C :: (bytes v.text ++ bytes (elementsText rest)) := by
  rw [elementsText, bytes_append, bytes_append]
  rfl

theorem bytes_membersText (name : String) (v : Value) (rest : Members) :
    bytes (membersText ((name, v) :: rest)) =
      0x2C :: (bytes (quoted name) ++ 0x3A :: (bytes v.text ++ bytes (membersText rest))) := by
  rw [membersText, bytes_append, bytes_append, bytes_append, bytes_append, List.append_assoc,
    List.append_assoc, List.append_assoc]
  rfl

theorem bytes_array (v : Value) (rest : List Value) :
    bytes (text (.array (v :: rest))) =
      0x5B :: (bytes v.text ++ (bytes (elementsText rest) ++ [0x5D])) := by
  rw [text, bytes_append, bytes_append, bytes_append, List.append_assoc, List.append_assoc]
  rfl

theorem bytes_object (name : String) (v : Value) (rest : Members) :
    bytes (text (.object ((name, v) :: rest))) =
      0x7B ::
        (bytes (quoted name) ++ 0x3A ::
          (bytes v.text ++ (bytes (membersText rest) ++ [0x7D]))) := by
  rw [text, bytes_append, bytes_append, bytes_append, bytes_append, bytes_append, List.append_assoc,
    List.append_assoc, List.append_assoc, List.append_assoc]
  rfl

end Value

namespace Read

/-- Octets that a value may start with: neither a blank nor the end of a list. -/
def StartsValue (octets : Bytes) : Prop :=
  ∃ b more, octets = b :: more ∧ isBlank b = false ∧ b ≠ 0x5D

theorem digit_distinct {b : UInt8} (h : (digit? b).isSome = true) :
    (isBlank b = false ∧ b ≠ 0x5B ∧ b ≠ 0x7B) ∧ b ≠ 0x6E ∧ b ≠ 0x74 ∧ b ≠ 0x66 ∧ b ≠ 0x2D ∧
      b ≠ 0x5D := by
  have bounds := digit?_isSome h
  simp only [isBlank, UInt8.le_iff_toNat_le, UInt8.reduceToNat, ne_eq, ← UInt8.toNat_inj,
    Bool.or_eq_false_iff, decide_eq_false_iff_not] at bounds ⊢
  omega

theorem startsValue_text {levels : Nat} {v : Value} (h : v.Regular levels) :
    StartsValue (bytes v.text) := by
  cases h with
  | null => exact ⟨_, _, rfl, rfl, by decide⟩
  | boolean b => cases b <;> exact ⟨_, _, rfl, rfl, by decide⟩
  | string s => exact ⟨_, _, bytes_quoted s, rfl, by decide⟩
  | whole n =>
      obtain ⟨m, -, -, written⟩ | ⟨m, -, -, -, written⟩ := bytes_wholeText n
      · obtain ⟨octet, more, octets, digit⟩ := digitOctets_eq_cons m
        obtain ⟨⟨notBlank, -⟩, -, -, -, -, notEnd⟩ := digit_distinct digit
        exact ⟨octet, more, written.trans octets, notBlank, notEnd⟩
      · exact ⟨_, _, written, rfl, by decide⟩
  | @array _ elements _ =>
      cases elements with
      | nil => exact ⟨_, _, rfl, rfl, by decide⟩
      | cons v rest => exact ⟨_, _, Value.bytes_array v rest, rfl, by decide⟩
  | @object _ members _ _ =>
      cases members with
      | nil => exact ⟨_, _, rfl, rfl, by decide⟩
      | cons member rest => exact ⟨_, _, Value.bytes_object member.1 member.2 rest, rfl, by decide⟩

/-- A value is read behind its text as far as it goes. -/
def ReadsBack (depth : Nat) (v : Value) : Prop :=
  ∀ fuel rest, 2 * (bytes v.text).length ≤ fuel → Delimited rest →
    value fuel depth (bytes v.text ++ rest) = .ok (v, rest)

variable {fuel depth : Nat}

/-- A value that is read in one call. -/
theorem readsBack_leaf {v : Value} (h : v.Regular 0)
    (read : ∀ {fuel rest}, Delimited rest → value (fuel + 1) depth (bytes v.text ++ rest) =
      .ok (v, rest)) :
    ReadsBack depth v := by
  intro fuel rest enough ends
  obtain ⟨b, more, octets, -⟩ := startsValue_text h
  have nonempty : 0 < (bytes v.text).length := octets ▸ Nat.zero_lt_succ _
  obtain ⟨calls, rfl⟩ := Nat.exists_eq_add_of_le' (by omega : 1 ≤ fuel)
  exact read ends

/-- How a value is read that is neither a list nor an object. -/
theorem value_cons {b : UInt8} (single : isBlank b = false ∧ b ≠ 0x5B ∧ b ≠ 0x7B) (rest : Bytes) :
    value (fuel + 1) depth (b :: rest) =
      if b = 0x6E then (word wordNull rest).map fun rest => (.null, rest)
      else if b = 0x74 then (word wordTrue rest).map fun rest => (.boolean true, rest)
      else if b = 0x66 then (word wordFalse rest).map fun rest => (.boolean false, rest)
      else if b = 0x2D then (Numeral.unsigned true rest).map fun read => (.number read.1, read.2)
      else if (digit? b).isSome then
        (Numeral.unsigned false (b :: rest)).map fun read => (.number read.1, read.2)
      else if b = 0x22 then (string rest).map fun read => (.string read.1, read.2)
      else failNext .expectedValue (b :: rest) := by
  obtain ⟨notBlank, noList, noObject⟩ := single
  have next : skipBlanks (b :: rest) = b :: rest := by
    rw [skipBlanks, notBlank]
    rfl
  rw [value.eq_def]
  simp only [next, if_neg noList, if_neg noObject]

theorem value_array (rest : Bytes) :
    value (fuel + 1) (depth + 2) (0x5B :: rest) = elements fuel (depth + 1) true [] rest := by
  rw [value.eq_def]
  rfl

theorem value_object (rest : Bytes) :
    value (fuel + 1) (depth + 2) (0x7B :: rest) = members fuel (depth + 1) true [] rest := by
  rw [value.eq_def]
  rfl

theorem value_null (rest : Bytes) :
    value (fuel + 1) depth (bytes Value.null.text ++ rest) = .ok (.null, rest) := by
  have octets : bytes Value.null.text = [0x6E, 0x75, 0x6C, 0x6C] := rfl
  rw [octets, List.cons_append, value_cons (by decide), if_pos rfl]
  rfl

theorem value_boolean (b : Bool) (rest : Bytes) :
    value (fuel + 1) depth (bytes (Value.boolean b).text ++ rest) = .ok (.boolean b, rest) := by
  cases b with
  | true =>
      have octets : bytes (Value.boolean true).text = [0x74, 0x72, 0x75, 0x65] := rfl
      rw [octets, List.cons_append, value_cons (by decide)]
      rfl
  | false =>
      have octets : bytes (Value.boolean false).text = [0x66, 0x61, 0x6C, 0x73, 0x65] := rfl
      rw [octets, List.cons_append, value_cons (by decide)]
      rfl

theorem value_string (s : String) (rest : Bytes) :
    value (fuel + 1) depth (bytes (quoted s) ++ rest) = .ok (.string s, rest) := by
  rw [bytes_quoted, List.cons_append, List.append_assoc, List.singleton_append,
    value_cons (by decide)]
  exact congrArg (Except.map _) (string_inner s rest)

theorem value_whole (n : Whole) {rest : Bytes} (ends : Delimited rest) :
    value (fuel + 1) depth (bytes (Number.whole n).text ++ rest) =
      .ok (.number (.whole n), rest) := by
  obtain ⟨m, small, rfl, written⟩ | ⟨m, small, positive, rfl, written⟩ := bytes_wholeText n
  · have read := Numeral.unsigned_ofNat small ends
    obtain ⟨octet, more, octets, digit⟩ := digitOctets_eq_cons m
    obtain ⟨single, notNull, notTrue, notFalse, notMinus, -⟩ := digit_distinct digit
    rw [octets, List.cons_append] at read
    rw [written, octets, List.cons_append, value_cons single, if_neg notNull, if_neg notTrue,
      if_neg notFalse, if_neg notMinus, if_pos digit, read]
    rfl
  · have read := Numeral.unsigned_ofNeg positive small ends
    rw [written, List.cons_append, value_cons (by decide)]
    exact congrArg (Except.map _) read

theorem hasElement_first {octets : Bytes} (starts : StartsValue octets) (rest : Bytes) :
    hasElement true (octets ++ rest) = .ok (true, octets ++ rest) := by
  obtain ⟨b, more, rfl, notBlank, notEnd⟩ := starts
  simp [hasElement, skipBlanks, notBlank, notEnd]

theorem hasElement_next {octets : Bytes} (starts : StartsValue octets) (rest : Bytes) :
    hasElement false (0x2C :: (octets ++ rest)) = .ok (true, octets ++ rest) := by
  obtain ⟨b, more, rfl, notBlank, notEnd⟩ := starts
  have comma : isBlank 0x2C = false := rfl
  simp [hasElement, skipBlanks, comma, notBlank, notEnd]

theorem elements_end (first : Bool) (done : List Value) (rest : Bytes) :
    elements (fuel + 1) depth first done (0x5D :: rest) = .ok (.array done.reverse, rest) := by
  rw [elements]
  simp [hasElement, endOfList, skipBlanks, isBlank, Except.map]

theorem elements_step {first : Bool} {done : List Value} {input front rest : Bytes} {v : Value}
    (next : hasElement first input = .ok (true, front))
    (read : value fuel depth front = .ok (v, rest)) :
    elements (fuel + 1) depth first done input = elements fuel depth false (v :: done) rest := by
  rw [elements]
  simp only [next, read]

/-- A list is read to its end from any element on; `input` is what stands before that element. -/
theorem elements_written {v : Value} {vs : List Value}
    (each : ∀ w ∈ v :: vs, StartsValue (bytes w.text) ∧ ReadsBack depth w) {first : Bool}
    {done : List Value} {input rest : Bytes}
    (next : hasElement first input =
      .ok (true, bytes v.text ++ (bytes (Value.elementsText vs) ++ 0x5D :: rest)))
    (enough : 2 * ((bytes v.text).length + (bytes (Value.elementsText vs)).length) < fuel) :
    elements (fuel + 1) depth first done input = .ok (.array (done.reverse ++ v :: vs), rest) := by
  induction vs generalizing v first done input fuel with
  | nil =>
      have read := (each v List.mem_cons_self).2 fuel (0x5D :: rest) (by omega)
        (delimited_cons (by simp) rest)
      obtain ⟨calls, rfl⟩ := Nat.exists_eq_add_of_le' (by omega : 1 ≤ fuel)
      rw [elements_step next read, elements_end, List.reverse_cons]
  | cons w vs ih =>
      have later : ∀ u ∈ w :: vs, StartsValue (bytes u.text) ∧ ReadsBack depth u := fun u mem =>
        each u (List.mem_cons_of_mem v mem)
      rw [Value.bytes_elementsText] at next enough
      rw [List.cons_append, List.append_assoc] at next
      rw [List.length_cons, List.length_append] at enough
      have read {rest : Bytes} := (each v List.mem_cons_self).2 fuel rest (by omega)
      -- what follows this element is a comma and the next one, which is the hypothesis of the
      -- induction
      have behind := hasElement_next (later w List.mem_cons_self).1
        (bytes (Value.elementsText vs) ++ 0x5D :: rest)
      obtain ⟨calls, rfl⟩ := Nat.exists_eq_add_of_le' (by omega : 1 ≤ fuel)
      rw [elements_step next (read (delimited_cons (.inl rfl) _)), ih later behind (by omega),
        List.reverse_cons, List.append_assoc, List.singleton_append]

theorem hasName_first (name : String) (rest : Bytes) :
    hasName true (bytes (quoted name) ++ rest) = .ok (true, inner name.toList ++ 0x22 :: rest) := by
  rw [bytes_quoted]
  simp [hasName, skipBlanks, isBlank]

theorem hasName_next (name : String) (rest : Bytes) :
    hasName false (0x2C :: (bytes (quoted name) ++ rest)) =
      .ok (true, inner name.toList ++ 0x22 :: rest) := by
  rw [bytes_quoted]
  simp [hasName, skipBlanks, isBlank]

theorem members_end (first : Bool) (done : Members) (rest : Bytes) :
    members (fuel + 1) depth first done (0x7D :: rest) = .ok (.object done, rest) := by
  rw [members]
  simp [hasName, endOfObject, skipBlanks, isBlank, Except.map]

theorem members_step {first : Bool} {done : Members} {input front between start rest : Bytes}
    {name : String} {v : Value} (next : hasName first input = .ok (true, front))
    (named : string front = .ok (name, between))
    (separated : colon between = .ok start) (read : value fuel depth start = .ok (v, rest)) :
    members (fuel + 1) depth first done input =
      members fuel depth false (done.put name v) rest := by
  rw [members]
  simp only [next, named, separated, read]

theorem colon_next (rest : Bytes) : colon (0x3A :: rest) = .ok rest := by
  simp [colon, skipBlanks, isBlank]

theorem names_before {done rest : Members} {name : String} {v : Value}
    (ascending : (done ++ (name, v) :: rest).Pairwise (·.1 < ·.1)) :
    ∀ member ∈ done, member.1 < name :=
  fun member mem => (List.pairwise_append.1 ascending).2.2 member mem (name, v) List.mem_cons_self

/-- An object is read to its end from any member on; `input` is what stands before that member. -/
theorem members_written {name : String} {v : Value} {rest : Members} {done : Members}
    (ascending : (done ++ (name, v) :: rest).Pairwise (·.1 < ·.1))
    (each : ∀ member ∈ (name, v) :: rest, ReadsBack depth member.2) {first : Bool}
    {input behind : Bytes}
    (next : hasName first input =
      .ok (true, inner name.toList ++ 0x22 :: 0x3A ::
        (bytes v.text ++ (bytes (Value.membersText rest) ++ 0x7D :: behind))))
    (enough : 2 * ((bytes v.text).length + (bytes (Value.membersText rest)).length) < fuel) :
    members (fuel + 1) depth first done input =
      .ok (.object (done ++ (name, v) :: rest), behind) := by
  induction rest generalizing name v done first input fuel with
  | nil =>
      have put := Entries.put_eq_append (names_before ascending) v
      have readsBack : ReadsBack depth v := each (name, v) List.mem_cons_self
      have read := readsBack fuel (0x7D :: behind) (by omega) (delimited_cons (by simp) behind)
      obtain ⟨calls, rfl⟩ := Nat.exists_eq_add_of_le' (by omega : 1 ≤ fuel)
      rw [members_step next (string_inner name _) (colon_next _) read, members_end, put]
  | cons member rest ih =>
      obtain ⟨later, w⟩ := member
      have put := Entries.put_eq_append (names_before ascending) v
      have readsBack : ReadsBack depth v := each (name, v) List.mem_cons_self
      rw [Value.bytes_membersText] at next enough
      rw [List.cons_append, List.append_assoc, List.cons_append, List.append_assoc] at next
      rw [List.length_cons, List.length_append, List.length_cons, List.length_append] at enough
      have read {rest : Bytes} := readsBack fuel rest (by omega)
      obtain ⟨calls, rfl⟩ := Nat.exists_eq_add_of_le' (by omega : 1 ≤ fuel)
      -- all names so far are smaller, so the member goes to the end of those that are done
      rw [List.append_cons] at ascending
      have onward := ih ascending (fun member mem => each member (List.mem_cons_of_mem _ mem))
        (hasName_next later _) (by omega : _ < calls)
      rw [members_step next (string_inner name _) (colon_next _)
        (read (delimited_cons (.inl rfl) _)), put, onward, ← List.append_cons]

theorem readsBack_array {elements : List Value}
    (inside : ∀ w ∈ elements, StartsValue (bytes w.text) ∧ ReadsBack (depth + 1) w) :
    ReadsBack (depth + 2) (.array elements) := by
  intro fuel rest enough _
  cases elements with
  | nil =>
      have octets : bytes (Value.array []).text = [0x5B, 0x5D] := rfl
      rw [octets, List.length_cons, List.length_singleton] at enough
      obtain ⟨calls, rfl⟩ := Nat.exists_eq_add_of_le' (by omega : 2 ≤ fuel)
      rw [octets, List.cons_append, value_array, List.singleton_append, elements_end,
        List.reverse_nil]
  | cons v elements =>
      rw [Value.bytes_array, List.length_cons, List.length_append, List.length_append,
        List.length_singleton] at enough
      obtain ⟨calls, rfl⟩ := Nat.exists_eq_add_of_le' (by omega : 2 ≤ fuel)
      have next := hasElement_first (inside v List.mem_cons_self).1
        (bytes (Value.elementsText elements) ++ 0x5D :: rest)
      rw [Value.bytes_array, List.cons_append, List.append_assoc, List.append_assoc,
        List.singleton_append, value_array, elements_written inside next (by omega),
        List.reverse_nil, List.nil_append]

theorem readsBack_object {members : Members} (ascending : members.Pairwise (·.1 < ·.1))
    (inside : ∀ member ∈ members, ReadsBack (depth + 1) member.2) :
    ReadsBack (depth + 2) (.object members) := by
  intro fuel rest enough _
  cases members with
  | nil =>
      have octets : bytes (Value.object []).text = [0x7B, 0x7D] := rfl
      rw [octets, List.length_cons, List.length_singleton] at enough
      obtain ⟨calls, rfl⟩ := Nat.exists_eq_add_of_le' (by omega : 2 ≤ fuel)
      rw [octets, List.cons_append, value_object, List.singleton_append, members_end]
  | cons member members =>
      obtain ⟨name, v⟩ := member
      rw [Value.bytes_object, List.length_cons, List.length_append, List.length_cons,
        List.length_append, List.length_append, List.length_singleton] at enough
      obtain ⟨calls, rfl⟩ := Nat.exists_eq_add_of_le' (by omega : 2 ≤ fuel)
      rw [Value.bytes_object, List.cons_append, List.append_assoc, List.cons_append,
        List.append_assoc, List.append_assoc, List.singleton_append, value_object,
        members_written ascending inside (hasName_first name _) (by omega), List.nil_append]

/-- A value that nests less deep than may be read is read back. -/
theorem readsBack {levels : Nat} {v : Value} (h : v.Regular levels) (deep : levels < depth) :
    ReadsBack depth v := by
  induction h generalizing depth with
  | null => exact readsBack_leaf .null fun _ => value_null _
  | boolean b => exact readsBack_leaf (.boolean b) fun _ => value_boolean b _
  | whole n => exact readsBack_leaf (.whole n) fun ends => value_whole n ends
  | string s => exact readsBack_leaf (.string s) fun _ => value_string s _
  | array each ih =>
      obtain ⟨below, rfl⟩ := Nat.exists_eq_add_of_le' (by omega : 2 ≤ depth)
      exact readsBack_array fun w mem => ⟨startsValue_text (each w mem), ih w mem (by omega)⟩
  | object ascending _ ih =>
      obtain ⟨below, rfl⟩ := Nat.exists_eq_add_of_le' (by omega : 2 ≤ depth)
      exact readsBack_object ascending fun member mem => ih member mem (by omega)

end Read

/-- The whole text of a value that nests at most 127 deep stands for that value. -/
theorem Value.ofBytes_text {v : Value} (h : v.Regular 127) :
    Value.ofBytes (bytes v.text) = .ok v := by
  have read := Read.readsBack h (by decide : 127 < Read.depthLimit) (Read.fuelFor (bytes v.text)) []
    (Nat.le_add_right _ 2) (by simp [Delimited])
  rw [List.append_nil] at read
  rw [Value.ofBytes, read]
  rfl

namespace Value

theorem visible_elementsText {vs : List Value} (each : ∀ v ∈ vs, Visible (bytes v.text)) :
    Visible (bytes (elementsText vs)) := by
  induction vs with
  | nil => decide
  | cons v rest ih =>
      have later := ih fun w mem => each w (List.mem_cons_of_mem _ mem)
      rw [bytes_elementsText]
      exact .cons (by decide) ((each v List.mem_cons_self).append later)

theorem visible_member (name : String) {octets : Bytes} (h : Visible octets) :
    Visible (bytes (quoted name) ++ 0x3A :: octets) :=
  (visible_quoted name).append (.cons (by decide) h)

theorem visible_membersText {members : Members}
    (each : ∀ member ∈ members, Visible (bytes member.2.text)) :
    Visible (bytes (membersText members)) := by
  induction members with
  | nil => decide
  | cons member rest ih =>
      have later := ih fun other mem => each other (List.mem_cons_of_mem _ mem)
      rw [bytes_membersText]
      exact .cons (by decide) (visible_member _ ((each member List.mem_cons_self).append later))

theorem visible_wholeText (n : Whole) : Visible (bytes (Number.whole n).text) := by
  obtain ⟨m, -, -, written⟩ | ⟨m, -, -, -, written⟩ := bytes_wholeText n <;> rw [written]
  · exact visible_digitOctets m
  · exact .cons (by decide) (visible_digitOctets m)

/-- A written value stands on one line. -/
theorem visible_text {levels : Nat} {v : Value} (h : v.Regular levels) :
    Visible (bytes v.text) := by
  induction h with
  | null => decide
  | boolean b => cases b <;> decide
  | whole n => exact visible_wholeText n
  | string s => exact visible_quoted s
  | @array _ elements _ ih =>
      cases elements with
      | nil => decide
      | cons v rest =>
          have closing : Visible [0x5D] := by decide
          have later := visible_elementsText fun w mem => ih w (List.mem_cons_of_mem _ mem)
          rw [bytes_array]
          exact .cons (by decide) ((ih v List.mem_cons_self).append (later.append closing))
  | @object _ members _ _ ih =>
      cases members with
      | nil => decide
      | cons member rest =>
          have closing : Visible [0x7D] := by decide
          have later := visible_membersText fun other mem => ih other (List.mem_cons_of_mem _ mem)
          rw [bytes_object]
          exact .cons (by decide)
            (visible_member _ ((ih member List.mem_cons_self).append (later.append closing)))

end Value

end BulkIngest.Json
