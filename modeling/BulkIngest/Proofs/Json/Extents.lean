import BulkIngest.Proofs.Json.NumeralExtents

/-!
A value is known by its own octets. Where a value was found, the octets from its first to its last
one are read as the same value again, by themselves or with something else behind them that does not
go on differently, and twice as many calls as there are octets are enough for that. So the blanks
around a text do not matter.
-/

namespace BulkIngest.Json

namespace Read

variable {fuel calls depth : Nat} {first : Bool} {done : List Value} {names : Members}
  {blanks octets input front more rest : Bytes} {v : Value}

def Blanks (octets : Bytes) : Prop := ∀ b ∈ octets, isBlank b = true

theorem skipBlanks_append (h : Blanks blanks) (rest : Bytes) :
    skipBlanks (blanks ++ rest) = skipBlanks rest := by
  induction blanks with
  | nil => rfl
  | cons b blanks ih =>
      rw [List.cons_append, skipBlanks, if_pos (h b List.mem_cons_self)]
      exact ih fun b mem => h b (List.mem_cons_of_mem _ mem)

theorem exists_blanks (input : Bytes) :
    ∃ blanks, Blanks blanks ∧ input = blanks ++ skipBlanks input := by
  induction input with
  | nil => exact ⟨[], List.forall_mem_nil _, rfl⟩
  | cons b rest ih =>
      rw [skipBlanks]
      split
      · rename_i blank
        obtain ⟨blanks, all, split⟩ := ih
        exact ⟨b :: blanks, List.forall_mem_cons.mpr ⟨blank, all⟩, congrArg (b :: ·) split⟩
      · exact ⟨[], List.forall_mem_nil _, rfl⟩

/-- A reader that begins behind the blanks does not see them. -/
theorem value_append (h : Blanks blanks) (input : Bytes) :
    value (fuel + 1) depth (blanks ++ input) = value (fuel + 1) depth input := by
  rw [value.eq_def, value.eq_def]
  simp only [skipBlanks_append h]

theorem hasElement_append (h : Blanks blanks) (input : Bytes) :
    hasElement first (blanks ++ input) = hasElement first input := by
  rw [hasElement, hasElement, skipBlanks_append h]

theorem hasName_append (h : Blanks blanks) (input : Bytes) :
    hasName first (blanks ++ input) = hasName first input := by
  rw [hasName, hasName, skipBlanks_append h]

theorem word_taken {letters : Bytes} (h : word letters input = .ok rest) :
    input = letters ++ rest ∧ ∀ more, word letters (letters ++ more) = .ok more := by
  induction letters generalizing input with
  | nil =>
      rw [word, Except.ok.injEq] at h
      exact ⟨h, fun more => by rw [List.nil_append, word]⟩
  | cons letter letters ih =>
      cases input with
      | nil => contradiction
      | cons b input =>
          rw [word] at h
          split at h
          · rename_i same
            obtain ⟨rfl, taken⟩ := ih h
            refine ⟨by rw [same, List.cons_append], fun more => ?_⟩
            rw [List.cons_append, word, if_pos rfl, taken]
          · contradiction

theorem hasElement_taken (h : hasElement first input = .ok (true, front)) :
    ∃ before, input = before ++ front ∧ ∀ blanks octets more, Blanks blanks → StartsValue octets →
      hasElement first (before ++ (blanks ++ (octets ++ more))) = .ok (true, octets ++ more) := by
  rcases hasElement_cases h with
    ⟨never, -⟩ | ⟨-, rfl, b, behind, next, -, rfl⟩ | ⟨-, rfl, behind, next, rfl⟩
  · contradiction
  · obtain ⟨before, blank, split⟩ := exists_blanks input
    rw [next] at split
    refine ⟨before, split, fun blanks octets more blank' starts => ?_⟩
    rw [hasElement_append blank, hasElement_append blank', hasElement_first starts]
  · obtain ⟨before, blank, split⟩ := exists_blanks input
    obtain ⟨between, blank', split'⟩ := exists_blanks behind
    rw [next, split'] at split
    refine ⟨before ++ 0x2C :: between, by rw [split, List.append_assoc, List.cons_append, ← split'],
      ?_⟩
    intro blanks octets more blank'' starts
    obtain ⟨b, others, rfl, seen, notEnd⟩ := starts
    have comma : isBlank 0x2C = false := rfl
    rw [List.append_assoc, hasElement_append blank, List.cons_append, hasElement]
    simp [skipBlanks_append blank', skipBlanks_append blank'', skipBlanks, comma, seen, notEnd]

theorem hasName_taken (h : hasName first input = .ok (true, front)) :
    ∃ before, input = before ++ front ∧
      ∀ more, hasName first (before ++ more) = .ok (true, more) := by
  have quote : isBlank 0x22 = false := rfl
  have comma : isBlank 0x2C = false := rfl
  rcases hasName_cases h with ⟨never, -⟩ | ⟨-, rfl, next⟩ | ⟨-, rfl, behind, next, next'⟩
  · contradiction
  · obtain ⟨before, blank, split⟩ := exists_blanks input
    rw [next] at split
    refine ⟨before ++ [0x22], by rw [split, List.append_assoc, List.singleton_append],
      fun more => ?_⟩
    rw [List.append_assoc, hasName_append blank, List.singleton_append, hasName]
    simp [skipBlanks, quote]
  · obtain ⟨before, blank, split⟩ := exists_blanks input
    obtain ⟨between, blank', split'⟩ := exists_blanks behind
    rw [next'] at split'
    rw [next, split'] at split
    refine ⟨before ++ 0x2C :: (between ++ [0x22]), by simp [split], fun more => ?_⟩
    rw [List.append_assoc, hasName_append blank, List.cons_append, List.append_assoc,
      List.singleton_append, hasName]
    simp [skipBlanks_append blank', skipBlanks, comma, quote]

theorem colon_taken (h : colon input = .ok rest) :
    ∃ before, input = before ++ rest ∧ ∀ more, colon (before ++ more) = .ok more := by
  obtain ⟨before, blank, split⟩ := exists_blanks input
  rw [colon] at h
  split at h
  · contradiction
  · rename_i b behind next
    split at h
    · rename_i same
      rw [Except.ok.injEq] at h
      rw [next, same, h] at split
      refine ⟨before ++ [0x3A], by rw [split, List.append_assoc, List.singleton_append],
        fun more => ?_⟩
      rw [List.append_assoc, List.singleton_append, colon, skipBlanks_append blank]
      exact colon_next more
    · contradiction

/-- The octets are read as the value, by themselves and before whatever goes on like the rest. -/
def Spells (depth : Nat) (octets : Bytes) (v : Value) (rest : Bytes) : Prop :=
  ∀ calls more, 2 * octets.length ≤ calls → Alike more rest →
    value calls depth (octets ++ more) = .ok (v, more)

/-- An object stands between its braces. -/
def Braced (v : Value) (octets : Bytes) : Prop :=
  ∀ d, v = .object d → ∃ inside, octets = 0x7B :: (inside ++ [0x7D])

/-- The octets of a value, from its first to its last one. -/
structure Extent (depth : Nat) (octets : Bytes) (v : Value) (rest : Bytes) : Prop where
  starts : StartsValue octets
  braced : Braced v octets
  spells : Spells depth octets v rest

/-- Whatever reading so many calls deep finds is found in its own octets. -/
structure Taken (fuel : Nat) : Prop where
  value : ∀ {depth : Nat} {input rest : Bytes} {v : Value}, value fuel depth input = .ok (v, rest) →
    ∃ blanks octets, input = blanks ++ (octets ++ rest) ∧ Blanks blanks ∧ Extent depth octets v rest
  elements : ∀ {depth : Nat} {first : Bool} {done : List Value} {input rest : Bytes} {v : Value},
    elements fuel depth first done input = .ok (v, rest) →
    ∃ inside, input = inside ++ 0x5D :: rest ∧
      ∀ calls more, 2 * inside.length + 2 < calls →
        elements calls depth first done (inside ++ 0x5D :: more) = .ok (v, more)
  members : ∀ {depth : Nat} {first : Bool} {done : Members} {input rest : Bytes} {v : Value},
    members fuel depth first done input = .ok (v, rest) →
    ∃ inside, input = inside ++ 0x7D :: rest ∧
      ∀ calls more, 2 * inside.length + 2 < calls →
        members calls depth first done (inside ++ 0x7D :: more) = .ok (v, more)

/-- A value that is read in one call, which is therefore no object. -/
theorem Extent.leaf {b : UInt8} (seen : isBlank b = false) (notEnd : b ≠ 0x5D)
    (noObject : ∀ d, v ≠ .object d) (read : ∀ {calls more}, Alike more rest →
      Read.value (calls + 1) depth (b :: (octets ++ more)) = .ok (v, more)) :
    Extent depth (b :: octets) v rest where
  starts := ⟨b, octets, rfl, seen, notEnd⟩
  braced d object := absurd object (noObject d)
  spells calls more enough alike := by
    rw [List.length_cons] at enough
    obtain ⟨calls, rfl⟩ := Nat.exists_eq_add_of_le' (by omega : 1 ≤ calls)
    exact read alike

theorem spells_nested {opening closing : UInt8} {inside : Bytes}
    (read : ∀ calls more, 2 * inside.length + 2 < calls →
      value (calls + 1) depth (opening :: (inside ++ closing :: more)) = .ok (v, more)) :
    Spells depth (opening :: (inside ++ [closing])) v rest := by
  intro calls more enough _
  rw [List.length_cons, List.length_append, List.length_singleton] at enough
  obtain ⟨calls, rfl⟩ := Nat.exists_eq_add_of_le' (by omega : 1 ≤ calls)
  rw [List.cons_append, List.append_assoc, List.singleton_append]
  exact read calls more (by omega)

theorem extent_of_taken (h : Taken fuel) (read : Begins fuel depth input v rest) :
    ∃ octets, input = octets ++ rest ∧ Extent depth octets v rest := by
  cases read with
  | null ends =>
      obtain ⟨rfl, taken⟩ := word_taken ends
      refine ⟨0x6E :: wordNull, rfl,
        .leaf rfl (by decide) (fun _ never => by contradiction) fun {_ more} _ => ?_⟩
      rw [value_cons (by decide), if_pos rfl, taken more]
      rfl
  | yes ends =>
      obtain ⟨rfl, taken⟩ := word_taken ends
      refine ⟨0x74 :: wordTrue, rfl,
        .leaf rfl (by decide) (fun _ never => by contradiction) fun {_ more} _ => ?_⟩
      rw [value_cons (by decide), if_neg (by decide), if_pos rfl, taken more]
      rfl
  | no ends =>
      obtain ⟨rfl, taken⟩ := word_taken ends
      refine ⟨0x66 :: wordFalse, rfl,
        .leaf rfl (by decide) (fun _ never => by contradiction) fun {_ more} _ => ?_⟩
      rw [value_cons (by decide), if_neg (by decide), if_neg (by decide), if_pos rfl, taken more]
      rfl
  | negative ends =>
      obtain ⟨b, used, rfl, taken⟩ := Numeral.unsigned_taken ends
      refine ⟨0x2D :: b :: used, rfl,
        .leaf rfl (by decide) (fun _ never => by contradiction) fun {_ more} alike => ?_⟩
      rw [value_cons (by decide), if_neg (by decide), if_neg (by decide), if_neg (by decide),
        if_pos rfl, List.cons_append, taken more alike]
      rfl
  | positive digit ends =>
      obtain ⟨b, used, same, taken⟩ := Numeral.unsigned_taken ends
      obtain ⟨rfl, rfl⟩ := List.cons.inj same
      obtain ⟨single, noNull, noTrue, noFalse, noMinus, notEnd⟩ := digit_distinct digit
      refine ⟨_ :: used, rfl,
        .leaf single.1 notEnd (fun _ never => by contradiction) fun {_ more} alike => ?_⟩
      rw [value_cons single, if_neg noNull, if_neg noTrue, if_neg noFalse, if_neg noMinus,
        if_pos digit, taken more alike]
      rfl
  | string ends =>
      obtain ⟨used, rfl, taken⟩ := string_taken ends
      refine ⟨0x22 :: used, rfl,
        .leaf rfl (by decide) (fun _ never => by contradiction) fun {_ more} _ => ?_⟩
      rw [value_cons (by decide)]
      exact congrArg (Except.map _) (taken more).1
  | list ends =>
      obtain ⟨vs, rfl⟩ := elements_array ends
      obtain ⟨inside, rfl, taken⟩ := h.elements ends
      refine ⟨0x5B :: (inside ++ [0x5D]), by simp, ⟨_, _, rfl, rfl, by decide⟩,
        fun _ never => by contradiction, spells_nested fun calls more enough => ?_⟩
      rw [value_array]
      exact taken calls more enough
  | object ends =>
      obtain ⟨inside, rfl, taken⟩ := h.members ends
      refine ⟨0x7B :: (inside ++ [0x7D]), by simp, ⟨_, _, rfl, rfl, by decide⟩,
        fun _ _ => ⟨inside, rfl⟩, spells_nested fun calls more enough => ?_⟩
      rw [value_object]
      exact taken calls more enough

theorem StartsValue.length_pos (starts : StartsValue octets) : 0 < octets.length := by
  obtain ⟨b, more, rfl, -⟩ := starts
  exact Nat.zero_lt_succ _

theorem elements_append (h : Blanks blanks) (input : Bytes) :
    elements (fuel + 1) depth first done (blanks ++ input) =
      elements (fuel + 1) depth first done input := by
  rw [elements, elements, hasElement_append h]

theorem members_append (h : Blanks blanks) (input : Bytes) :
    members (fuel + 1) depth first names (blanks ++ input) =
      members (fuel + 1) depth first names input := by
  rw [members, members, hasName_append h]

theorem list_of_taken (h : Taken fuel)
    (read : elements (fuel + 1) depth first done input = .ok (v, rest)) :
    ∃ inside, input = inside ++ 0x5D :: rest ∧
      ∀ calls more, 2 * inside.length + 2 < calls →
        elements calls depth first done (inside ++ 0x5D :: more) = .ok (v, more) := by
  obtain ⟨_, less, ⟨next, -, rfl⟩ | ⟨front, w, left, next, element, later⟩⟩ :=
    elements_cases read <;>
    obtain rfl := Nat.succ.inj less
  · obtain ⟨blanks, blank, split⟩ := exists_blanks input
    rw [next] at split
    refine ⟨blanks, split, fun calls more enough => ?_⟩
    obtain ⟨calls, rfl⟩ := Nat.exists_eq_add_of_le' (by omega : 1 ≤ calls)
    rw [elements_append blank, elements_end]
  · obtain ⟨before, rfl, found⟩ := hasElement_taken next
    obtain ⟨blanks, octets, rfl, blank, extent⟩ := h.value element
    obtain ⟨inside, rfl, onward⟩ := h.elements later
    refine ⟨before ++ (blanks ++ (octets ++ inside)), by simp only [List.append_assoc],
      fun calls more enough => ?_⟩
    have nonempty := extent.starts.length_pos
    simp only [List.length_append] at enough
    obtain ⟨calls, rfl⟩ := Nat.exists_eq_add_of_le' (by omega : 1 ≤ calls)
    -- the value is the same, since the octets behind it are others only from the closing bracket on
    have element := extent.spells calls (inside ++ 0x5D :: more) (by omega)
      ((Alike.cons 0x5D more rest).append inside)
    simp only [List.append_assoc]
    rw [elements_step (found _ _ _ blank extent.starts) element]
    exact onward calls more (by omega)

theorem object_of_taken (h : Taken fuel)
    (read : members (fuel + 1) depth first names input = .ok (v, rest)) :
    ∃ inside, input = inside ++ 0x7D :: rest ∧
      ∀ calls more, 2 * inside.length + 2 < calls →
        members calls depth first names (inside ++ 0x7D :: more) = .ok (v, more) := by
  obtain ⟨_, less,
    ⟨next, -, rfl⟩ | ⟨front, name, between, start, w, left, next, named, separated, member,
      later⟩⟩ := members_cases read <;> obtain rfl := Nat.succ.inj less
  · obtain ⟨blanks, blank, split⟩ := exists_blanks input
    rw [next] at split
    refine ⟨blanks, split, fun calls more enough => ?_⟩
    obtain ⟨calls, rfl⟩ := Nat.exists_eq_add_of_le' (by omega : 1 ≤ calls)
    rw [members_append blank, members_end]
  · obtain ⟨before, rfl, found⟩ := hasName_taken next
    obtain ⟨quoted, rfl, spelled⟩ := string_taken named
    obtain ⟨behind, rfl, parted⟩ := colon_taken separated
    obtain ⟨blanks, octets, rfl, blank, extent⟩ := h.value member
    obtain ⟨inside, rfl, onward⟩ := h.members later
    refine ⟨before ++ (quoted ++ (behind ++ (blanks ++ (octets ++ inside)))),
      by simp only [List.append_assoc], fun calls more enough => ?_⟩
    have nonempty := extent.starts.length_pos
    simp only [List.length_append] at enough
    obtain ⟨calls, rfl⟩ := Nat.exists_eq_add_of_le' (by omega : 2 ≤ calls)
    have member := extent.spells (calls + 1) (inside ++ 0x7D :: more) (by omega)
      ((Alike.cons 0x7D more rest).append inside)
    rw [← value_append blank] at member
    simp only [List.append_assoc]
    rw [members_step (found _) (spelled _).1 (parted _) member]
    exact onward (calls + 1) more (by omega)

/-- Reading so many calls deep takes the octets of what it finds, by induction on the calls. -/
theorem taken (fuel : Nat) : Taken fuel := by
  induction fuel with
  | zero =>
      refine ⟨fun read => ?_, fun read => ?_, fun read => ?_⟩
      · obtain ⟨_, never, -⟩ := begins_of_value read
        contradiction
      · obtain ⟨_, never, -⟩ := elements_cases read
        contradiction
      · obtain ⟨_, never, -⟩ := members_cases read
        contradiction
  | succ fuel ih =>
      refine ⟨fun {_ input _ _} read => ?_, list_of_taken ih, object_of_taken ih⟩
      obtain ⟨_, less, begins⟩ := begins_of_value read
      obtain rfl := Nat.succ.inj less
      obtain ⟨blanks, blank, split⟩ := exists_blanks input
      obtain ⟨octets, same, extent⟩ := extent_of_taken ih begins
      exact ⟨blanks, octets, by rw [split, same], blank, extent⟩

theorem length_value (read : value fuel depth input = .ok (v, rest)) :
    rest.length < input.length := by
  obtain ⟨blanks, octets, rfl, -, extent⟩ := (taken fuel).value read
  have nonempty := extent.starts.length_pos
  simp only [List.length_append]
  omega

/-- Twice as many calls as there are octets are enough. -/
theorem value_enough (read : value fuel depth input = .ok (v, rest))
    (enough : 2 * input.length ≤ calls) :
    value calls depth input = .ok (v, rest) := by
  obtain ⟨blanks, octets, rfl, blank, extent⟩ := (taken fuel).value read
  have nonempty := extent.starts.length_pos
  simp only [List.length_append] at enough
  obtain ⟨calls, rfl⟩ := Nat.exists_eq_add_of_le' (by omega : 1 ≤ calls)
  rw [value_append blank]
  exact extent.spells (calls + 1) rest (by omega) (.refl rest)

theorem blanks_of_skipBlanks (blank : skipBlanks input = []) : Blanks input := by
  obtain ⟨blanks, blank', split⟩ := exists_blanks input
  rwa [split, blank, List.append_nil]

end Read

section

open Read

variable {fuel calls depth : Nat} {first : Bool} {done : List Value} {input rest : Bytes}
    {v : Value}

/-- A text that stands for a value has blanks around the octets of that value, and these stand for
it alone. -/
theorem Value.ofBytes_cases (h : Value.ofBytes input = .ok v) :
    ∃ before octets after, input = before ++ (octets ++ after) ∧ Blanks before ∧ Blanks after ∧
      Braced v octets ∧ Value.ofBytes octets = .ok v := by
  obtain ⟨rest, read, ended⟩ := exists_of_whole h
  obtain ⟨before, octets, split, blank, extent⟩ := (taken _).value read
  have alone := extent.spells (fuelFor octets) [] (Nat.le_add_right _ 2) (.nil rest)
  rw [List.append_nil] at alone
  refine ⟨before, octets, rest, split, blank, blanks_of_skipBlanks ended, extent.braced, ?_⟩
  rw [Value.ofBytes, alone]
  rfl

/-- The elements of a list are read one by one as they are read together. -/
theorem items_of_elements (read : elements calls depth first done input = .ok (v, rest))
    (enough : input.length < fuel) :
    ∃ vs, v = .array vs ∧ items (anyValue depth) fuel first done input = .ok (vs, rest) := by
  induction calls generalizing first done input fuel with
  | zero =>
      obtain ⟨_, never, -⟩ := elements_cases read
      contradiction
  | succ calls ih =>
      obtain ⟨fuel, rfl⟩ := Nat.exists_eq_add_of_le' (by omega : 1 ≤ fuel)
      obtain ⟨_, less, ⟨-, next, rfl⟩ | ⟨front, w, left, next, element, later⟩⟩ :=
        elements_cases read <;>
        obtain rfl := Nat.succ.inj less
      · refine ⟨_, rfl, ?_⟩
        rw [items]
        simp only [next, endOfList_closing]
        rfl
      · have shorter := length_value element
        obtain ⟨before, rfl, -⟩ := hasElement_taken next
        rw [List.length_append] at enough
        obtain ⟨vs, rfl, onward⟩ := ih later (by omega : left.length < fuel)
        refine ⟨vs, rfl, ?_⟩
        have alone : anyValue depth front = .ok (w, left) :=
          value_enough element (Nat.le_add_right _ 2)
        rw [items]
        simp only [next, alone, onward]

theorem listOf_of_value {vs : List Value} (read : value fuel depth input = .ok (.array vs, rest)) :
    listOf depth anyValue input = .ok (vs, rest) := by
  obtain ⟨calls, -, begins⟩ := begins_of_value read
  generalize next : skipBlanks input = octets at begins
  cases begins with
  | @list depth behind _ _ ends =>
      have enough : behind.length < fuelFor behind := by
        rw [fuelFor]
        omega
      obtain ⟨ws, same, found⟩ := items_of_elements ends enough
      rw [Value.array.injEq] at same
      rw [listOf, next]
      simp only [if_true, if_neg (by omega : ¬ depth + 2 ≤ 1), same]
      exact found
  | object ends =>
      obtain ⟨d, never⟩ := members_object ends
      contradiction

/-- A text that stands for a list is read as a list of values. -/
theorem whole_listOf {vs : List Value} (h : Value.ofBytes input = .ok (.array vs)) :
    whole (listOf depthLimit anyValue) input = .ok vs := by
  obtain ⟨rest, read, ended⟩ := exists_of_whole h
  rw [whole, listOf_of_value read, ok_bind, finish]
  simp only [ended]

end

end BulkIngest.Json
