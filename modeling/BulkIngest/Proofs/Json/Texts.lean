import Mathlib.Logic.Function.Basic
import BulkIngest.Proofs.Json.Grammar

/-!
What a text says is read wherever the text stands. A list is read from its parts, a map from its
names and parts, and a record from its fields in any order and among others that it does not know.
The other modules take apart what was read; here nothing has been read yet, and what is known is how
the text was put together.
-/

namespace BulkIngest.Json

namespace Read

variable {α β δ : Type} {depth fuel max : Nat} {first : Bool} {input inside more text part : Bytes}
  {parts : List Bytes} {reader inner item : Reader α} {a : α} {v : Value} {name : String}
  {fields : List (String × Bytes)}

/-- The reader finds the data in the text wherever the text stands, up to the blanks behind it. -/
structure Takes (reader : Reader α) (text : Bytes) (a : α) : Prop where
  starts : StartsValue (skipBlanks text)
  reads : ∀ ⦃input more : Bytes⦄, EndsNumeral more → skipBlanks input = skipBlanks (text ++ more) →
    ∃ behind, reader input = .ok (a, behind) ∧ skipBlanks behind = skipBlanks more

theorem Takes.whole (h : Takes reader text a) : whole reader text = .ok a := by
  obtain ⟨behind, read, ended⟩ :=
    h.reads (by simp [EndsNumeral] : EndsNumeral []) (by rw [List.append_nil])
  rw [Read.whole, read, ok_bind, finish, ended]
  rfl

theorem Takes.map (h : Takes reader text a) (f : α → β) :
    Takes (fun input => (reader input).map fun (a, rest) => (f a, rest)) text (f a) where
  starts := h.starts
  reads input more ends here := by
    obtain ⟨behind, read, same⟩ := h.reads ends here
    exact ⟨behind, by rw [read]; rfl, same⟩

theorem IsJson.takes (h : IsJson text) : Takes ignored text () where
  starts := h.starts
  reads input more ends here := by
    have reaches : Reaches (skipValue (fuelFor input) [] input) [] more :=
      h.passed ends here (by rw [fuelFor]; omega)
    obtain ⟨behind, calls, fuel, same, enough, -, passing⟩ := reaches
    obtain ⟨calls, rfl⟩ := Nat.exists_eq_add_of_le' (by omega : 1 ≤ calls)
    exact ⟨behind, by rw [ignored, passing]; rfl, same⟩

/-- A text that says a value begins with the octets of that value. -/
theorem exists_core (h : Read.whole (anyValue depth) text = .ok v) :
    ∃ core after, Blanks after ∧ Denotes depth core v ∧
      ∀ more, skipBlanks (text ++ more) = core ++ (after ++ more) := by
  obtain ⟨before, core, after, rfl, blank, blank', denotes⟩ := exists_denotes h
  refine ⟨core, after, blank', denotes, fun more => ?_⟩
  rw [List.append_assoc, skipBlanks_append blank, List.append_assoc]
  obtain ⟨b, later, rfl, seen, -⟩ := denotes.startsValue
  rw [List.cons_append, skipBlanks, if_neg (by simp [seen])]

theorem startsValue_of_whole (h : Read.whole (anyValue depth) text = .ok v) :
    StartsValue (skipBlanks text) := by
  obtain ⟨core, after, -, denotes, front⟩ := exists_core h
  have here := front []
  rw [List.append_nil, List.append_nil] at here
  obtain ⟨b, later, rfl, seen⟩ := denotes.startsValue
  exact here ▸ ⟨b, later ++ after, rfl, seen⟩

theorem value_of_skipBlanks (input : Bytes) :
    value (fuel + 1) depth input = value (fuel + 1) depth (skipBlanks input) := by
  obtain ⟨blanks, blank, split⟩ := exists_blanks input
  rw [← value_append blank (skipBlanks input), ← split]

theorem takes_anyValue (h : Read.whole (anyValue depth) text = .ok v) :
    Takes (anyValue depth) text v where
  starts := startsValue_of_whole h
  reads input more ends here := by
    obtain ⟨core, after, blank, denotes, front⟩ := exists_core h
    have length := length_skipBlanks input
    rw [here, front, List.length_append] at length
    refine ⟨after ++ more, ?_, skipBlanks_append blank more⟩
    rw [anyValue, fuelFor, value_of_skipBlanks, here, front]
    exact denotes.value (by omega) (blank.endsNumeral ends)

theorem Denotes.string_eq {core : Bytes} {s : String} (h : Denotes depth core (.string s)) :
    ∃ quoted, core = 0x22 :: quoted ∧ ∀ more, string (quoted ++ more) = .ok (s, more) := by
  obtain ⟨calls, begins⟩ := h
  cases begins with
  | string ends =>
      obtain ⟨used, rfl, taken⟩ := string_taken ends
      exact ⟨used ++ [], rfl, fun more => by rw [List.append_nil, (taken more).1]⟩
  | list ends =>
      obtain ⟨_, never⟩ := elements_array ends
      contradiction
  | object ends =>
      obtain ⟨_, never⟩ := members_object ends
      contradiction

theorem Denotes.null_eq {core : Bytes} (h : Denotes depth core .null) :
    core = 0x6E :: wordNull := by
  obtain ⟨calls, begins⟩ := h
  obtain ⟨behind, rfl⟩ := begins.eq_null_iff.1 rfl
  cases begins with
  | null ends => rw [(word_taken ends).1, List.append_nil]

theorem takes_text {s : String} (h : Read.whole (anyValue depth) text = .ok (.string s)) :
    Takes Read.text text s where
  starts := startsValue_of_whole h
  reads input more ends here := by
    obtain ⟨core, after, blank, denotes, front⟩ := exists_core h
    obtain ⟨quoted, rfl, read⟩ := denotes.string_eq
    refine ⟨after ++ more, ?_, skipBlanks_append blank more⟩
    rw [Read.text, here, front, List.cons_append]
    exact read (after ++ more)

theorem takes_natural {n : Nat} (h : Read.whole (anyValue depth) text = .ok v)
    (fit : IsNatural max v n) (expected : String) : Takes (natural max expected) text n where
  starts := startsValue_of_whole h
  reads input more ends here := by
    obtain ⟨core, after, blank, ⟨calls, begins⟩, front⟩ := exists_core h
    obtain ⟨whole, rfl, same, least⟩ := fit
    have ends := blank.endsNumeral ends
    have found : whole.value.toNat = n := by omega
    have bounded : 0 ≤ whole.value ∧ n ≤ max := ⟨by omega, least⟩
    refine ⟨after ++ more, ?_, skipBlanks_append blank more⟩
    simp only [natural]
    rw [here, front]
    cases begins with
    | negative ended =>
        simp only [List.cons_append, if_true, Numeral.unsigned_append ends ended, ok_bind, found,
          if_pos bounded, List.nil_append]
    | positive digit ended =>
        obtain ⟨-, -, -, -, noMinus, -⟩ := digit_distinct digit
        have ended := Numeral.unsigned_append ends ended
        rw [List.cons_append] at ended
        simp only [List.cons_append, if_neg noMinus, if_pos digit, ended, ok_bind, found,
          if_pos bounded, List.nil_append]
    | list ends =>
        obtain ⟨_, never⟩ := elements_array ends
        contradiction
    | object ends =>
        obtain ⟨_, never⟩ := members_object ends
        contradiction

/-- Null is nothing, and any other value is what the inner reader makes of it. -/
theorem takes_optional {fits : Value → α → Prop} {o : Option α}
    (h : Read.whole (anyValue depth) text = .ok v)
    (inner_takes : ∀ a, fits v a → Takes inner text a) (fit : OrNull fits v o) :
    Takes (optional inner) text o where
  starts := startsValue_of_whole h
  reads input more ends here := by
    obtain ⟨core, after, blank, denotes, front⟩ := exists_core h
    obtain ⟨rfl, rfl⟩ | ⟨given, a, rfl, fit⟩ := fit
    · obtain rfl := denotes.null_eq
      refine ⟨after ++ more, ?_, skipBlanks_append blank more⟩
      rw [optional, here, front]
      rfl
    · have noNull : ∀ behind, skipBlanks input ≠ 0x6E :: behind := by
        intro behind next
        obtain ⟨b, later, rfl, -⟩ := denotes.startsValue
        obtain ⟨calls, begins⟩ := denotes
        rw [here, front, List.cons_append] at next
        exact given (begins.eq_null_iff.2 ⟨later, by rw [(List.cons.inj next).1]⟩)
      obtain ⟨behind, read, same⟩ :=
        (inner_takes a fit).reads ends ((skipBlanks_skipBlanks input).trans here)
      refine ⟨behind, ?_, same⟩
      rw [optional]
      split
      · rename_i next
        exact (noNull _ next).elim
      · rw [read]
        rfl

/-- A list with blanks around it, whose items are the parts. -/
inductive IsList (parts : List Bytes) : Bytes → Prop
  | brackets {before inside after : Bytes} (blank : Blanks before)
      (parted : Parted true parts inside)
      (blank' : Blanks after) : IsList parts (before ++ 0x5B :: (inside ++ 0x5D :: after))

/-- A member as a part of an object: a text that says its name, and the text of its value. -/
def IsMember (field : String × Bytes) (part : Bytes) : Prop :=
  ∃ named, Value.ofBytes named = .ok (.string field.1) ∧ part = memberText (named, field.2)

/-- An object with blanks around it, which has the fields in this order. -/
inductive IsObject (fields : List (String × Bytes)) : Bytes → Prop
  | braces {before inside after : Bytes} {parts : List Bytes} (blank : Blanks before)
      (members : List.Forall₂ IsMember fields parts) (parted : Parted true parts inside)
      (blank' : Blanks after) :
      IsObject fields (before ++ 0x7B :: (inside ++ 0x7D :: after))

/-- The parts with a comma between each two of them, from the first one on or from a later one
on. -/
def joined : Bool → List Bytes → Bytes
  | _, [] => []
  | true, part :: parts => part ++ joined false parts
  | false, part :: parts => 0x2C :: (part ++ joined false parts)

def listText (parts : List Bytes) : Bytes := 0x5B :: (joined true parts ++ [0x5D])

def objectText (fields : List (String × Bytes)) : Bytes :=
  0x7B ::
    (joined true (fields.map fun field => memberText (Text.bytes (quoted field.1), field.2)) ++
      [0x7D])

theorem parted_joined (first : Bool) (parts : List Bytes) :
    Parted first parts (joined first parts) := by
  induction parts generalizing first with
  | nil =>
      rw [joined]
      exact .none (List.forall_mem_nil _)
  | cons part parts ih =>
      cases first with
      | true => exact .first (ih false)
      | false => exact .next (ih false)

theorem isList_listText (parts : List Bytes) : IsList parts (listText parts) :=
  .brackets (List.forall_mem_nil _) (parted_joined true parts) (List.forall_mem_nil _)

theorem isObject_objectText (fields : List (String × Bytes)) :
    IsObject fields (objectText fields) := by
  refine .braces (List.forall_mem_nil _) ?_ (parted_joined true _) (List.forall_mem_nil _)
  rw [List.forall₂_map_right_iff, List.forall₂_same]
  exact fun field _ => ⟨_, Value.ofBytes_text (.string field.1), rfl⟩

/-- What is written of a value is read back where it may nest as deep. -/
theorem whole_text {levels : Nat} (h : v.Regular levels) :
    Read.whole (anyValue (levels + 1)) (Text.bytes v.text) = .ok v := by
  have read := readsBack h (Nat.lt_succ_self levels) (fuelFor (Text.bytes v.text)) []
    (Nat.le_add_right _ 2) (by simp [Delimited])
  rw [List.append_nil] at read
  rw [Read.whole, anyValue, read]
  rfl

theorem Parted.length_le (h : Parted first parts inside) :
    parts.length ≤ inside.length + first.toNat := by
  induction h with
  | none _ => exact Nat.zero_le _
  | first _ ih | next _ ih =>
      simp only [Bool.toNat_false, Bool.toNat_true, List.length_cons, List.length_append] at ih ⊢
      omega

/-- There are fewer parts than calls to read them. -/
theorem Parted.enough (h : Parted true parts inside) (behind : Bytes) :
    parts.length < fuelFor (inside ++ behind) := by
  have length := h.length_le
  rw [Bool.toNat_true] at length
  rw [fuelFor, List.length_append]
  omega

theorem hasElement_closing (next : skipBlanks input = 0x5D :: more) :
    hasElement first input = .ok (false, 0x5D :: more) := by
  rw [hasElement, next]
  rfl

theorem hasName_closing (next : skipBlanks input = 0x7D :: more) :
    hasName first input = .ok (false, 0x7D :: more) := by
  rw [hasName, next]
  rfl

/-- The items are read one after another, from any of them on. -/
theorem items_of_parts {as done : List α} (each : List.Forall₂ (Takes item) parts as)
    (parted : Parted first parts inside)
    (here : skipBlanks input = skipBlanks (inside ++ 0x5D :: more)) (enough : parts.length < fuel) :
    items item fuel first done input = .ok (done.reverse ++ as, more) := by
  induction each generalizing first inside input done fuel with
  | nil =>
      obtain ⟨fuel, rfl⟩ := Nat.exists_eq_add_of_le' (by omega : 1 ≤ fuel)
      rw [items]
      simp only [hasElement_closing (parted.over rfl here), endOfList_closing, List.append_nil]
      rfl
  | @cons part a parts as takes _ ih =>
      rw [List.length_cons] at enough
      obtain ⟨fuel, rfl⟩ := Nat.exists_eq_add_of_le' (by omega : 1 ≤ fuel)
      obtain ⟨b, rest, starts, -, noEnd⟩ := takes.starts
      obtain ⟨inside', onward, next⟩ := parted.next_element starts noEnd here
      have front := skipBlanks_front starts (inside' ++ 0x5D :: more)
      obtain ⟨behind, read, here⟩ :=
        takes.reads (onward.endsNumeral (delimited_cons (.inr (.inl rfl)) more).endsNumeral)
          ((skipBlanks_eq front).trans front.symm)
      rw [items]
      simp only [next, read]
      rw [ih onward here (by omega), List.reverse_cons, List.append_assoc, List.singleton_append]

theorem skipBlanks_enclosed {opening closing : UInt8} {before after : Bytes} (blank : Blanks before)
    (seen : isBlank opening = false) (more : Bytes) :
    skipBlanks (before ++ opening :: (inside ++ closing :: after) ++ more) =
      opening :: (inside ++ closing :: (after ++ more)) := by
  rw [List.append_assoc, skipBlanks_append blank, List.cons_append, skipBlanks,
    if_neg (by simp [seen]), List.append_assoc, List.cons_append]

theorem startsValue_enclosed {opening closing : UInt8} {before after : Bytes}
    (blank : Blanks before) (seen : isBlank opening = false) (noEnd : opening ≠ 0x5D) :
    StartsValue (skipBlanks (before ++ opening :: (inside ++ closing :: after))) := by
  rw [skipBlanks_append blank, skipBlanks, if_neg (by simp [seen])]
  exact ⟨opening, _, rfl, seen, noEnd⟩

theorem takes_listOf {item : Nat → Reader α} {as : List α} (list : IsList parts text)
    (each : List.Forall₂ (Takes (item (depth + 1))) parts as) :
    Takes (listOf (depth + 2) item) text as := by
  obtain @⟨before, inside, after, blank, parted, blank'⟩ := list
  refine ⟨startsValue_enclosed blank rfl (by decide), fun input more ends here => ?_⟩
  refine ⟨after ++ more, ?_, skipBlanks_append blank' more⟩
  rw [listOf, here, skipBlanks_enclosed blank rfl]
  simp only [if_true, if_neg (by omega : ¬depth + 2 ≤ 1)]
  exact items_of_parts each parted rfl (parted.enough _)

/-- A name is read up to its colon. -/
theorem exists_quoted {named : Bytes} (h : Value.ofBytes named = .ok (.string name)) :
    ∃ quoted, skipBlanks named = 0x22 :: quoted ∧
      ∀ more, ∃ between,
        string (quoted ++ 0x3A :: more) = .ok (name, between) ∧ colon between = .ok more := by
  have said : Read.whole (anyValue depthLimit) named = .ok (.string name) := h
  obtain ⟨core, after, blank, denotes, front⟩ := exists_core said
  obtain ⟨quoted, rfl, read⟩ := denotes.string_eq
  have here := front []
  rw [List.append_nil, List.append_nil] at here
  refine ⟨quoted ++ after, here, fun more => ⟨after ++ 0x3A :: more, ?_, ?_⟩⟩
  · rw [List.append_assoc, read]
  · rw [colon, skipBlanks_append blank]
    exact colon_next more

/-- The next member of an object is read up to its value. -/
theorem Parted.member (h : Parted first (part :: parts) inside)
    (member : IsMember (name, text) part) (here : skipBlanks input = skipBlanks (inside ++ more)) :
    ∃ inside' front between, Parted false parts inside' ∧ hasName first input = .ok (true, front) ∧
      string front = .ok (name, between) ∧ colon between = .ok (text ++ (inside' ++ more)) := by
  obtain ⟨named, said, rfl⟩ := member
  obtain ⟨quoted, starts, read⟩ := exists_quoted said
  obtain ⟨inside', onward, next⟩ := h.next_name (skipBlanks_front starts (0x3A :: text)) here
  obtain ⟨between, named, separated⟩ := read (text ++ (inside' ++ more))
  rw [List.append_assoc, List.cons_append] at next
  exact ⟨inside', _, between, onward, next, named, separated⟩

/-- What has been gathered of a map, last one first, when more entries are added to it. -/
def gathered (done entries : List (String × α)) : List (String × α) :=
  entries.foldl (fun done entry => entry :: done.filter (·.1 ≠ entry.1)) done

/-- The field gives the entry: its name, and what the reader finds in its value. -/
def Gives (item : Reader α) (field : String × Bytes) (entry : String × α) : Prop :=
  field.1 = entry.1 ∧ Takes item field.2 entry.2

/-- The entries are read one after another, from any of them on. -/
theorem entries_of_members {es done : List (String × α)}
    (members : List.Forall₂ IsMember fields parts)
    (each : List.Forall₂ (Gives item) fields es) (parted : Parted first parts inside)
    (here : skipBlanks input = skipBlanks (inside ++ 0x7D :: more)) (enough : parts.length < fuel) :
    entries item fuel first done input = .ok ((gathered done es).reverse, more) := by
  induction each generalizing first parts inside input done fuel with
  | nil =>
      cases members
      obtain ⟨fuel, rfl⟩ := Nat.exists_eq_add_of_le' (by omega : 1 ≤ fuel)
      rw [entries]
      simp only [hasName_closing (parted.over rfl here), endOfObject_closing]
      rfl
  | @cons field entry fields es gives _ ih =>
      cases members with
      | @cons _ part _ parts member members =>
          obtain ⟨name, text⟩ := field
          obtain ⟨name, a⟩ := entry
          obtain ⟨rfl, takes⟩ := gives
          rw [List.length_cons] at enough
          obtain ⟨fuel, rfl⟩ := Nat.exists_eq_add_of_le' (by omega : 1 ≤ fuel)
          obtain ⟨inside', front, between, onward, next, named, separated⟩ :=
            parted.member member here
          obtain ⟨behind, read, here⟩ :=
            takes.reads (onward.endsNumeral (delimited_cons (.inr (.inr rfl)) more).endsNumeral) rfl
          rw [entries]
          simp only [next, named, separated, ok_bind, read]
          exact ih members onward here (by omega)

theorem takes_mapOf {item : Nat → Reader α} {es : List (String × α)} (object : IsObject fields text)
    (each : List.Forall₂ (Gives (item (depth + 1))) fields es) :
    Takes (mapOf (depth + 2) item) text (gathered [] es).reverse := by
  obtain @⟨before, inside, after, parts, blank, members, parted, blank'⟩ := object
  refine ⟨startsValue_enclosed blank rfl (by decide), fun input more ends here => ?_⟩
  refine ⟨after ++ more, ?_, skipBlanks_append blank' more⟩
  rw [mapOf, here, skipBlanks_enclosed blank rfl]
  simp only [if_true, if_neg (by omega : ¬depth + 2 ≤ 1)]
  exact entries_of_members members each parted rfl (parted.enough _)

/-- The places in a record of the fields that it knows. -/
def places (names : List String) (fields : List (String × Bytes)) : List Nat :=
  fields.filterMap fun field => names.idxOf? field.1

/-- The fields that are known are given once, and all others are JSON. -/
structure Fielded (names : List String) (fields : List (String × Bytes)) : Prop where
  once : (places names fields).Nodup
  others : ∀ field ∈ fields, field.1 ∉ names → IsJson field.2

/-- What stands under the name is the value, and there is something unless the value is null. -/
structure FieldIs (depth : Nat) (fields : List (String × Bytes)) (name : String) (v : Value) :
    Prop where
  read : ∀ text, (name, text) ∈ fields → Read.whole (anyValue depth) text = .ok v
  given : v ≠ .null → ∃ text, (name, text) ∈ fields

theorem mem_places {names : List String} {i : Nat} :
    i ∈ places names fields ↔ ∃ field ∈ fields, names.idxOf? field.1 = some i := by
  rw [places, List.mem_filterMap]

theorem FieldIs.eq_null {names : List String} {i : Nat} (h : FieldIs depth fields name v)
    (known : names.idxOf? name = some i) (absent : i ∉ places names fields) : v = .null := by
  by_contra given
  obtain ⟨text, mem⟩ := h.given given
  exact absent (mem_places.2 ⟨_, mem, known⟩)

theorem FieldIs.of_filter (only : fields.filter (·.1 = name) = [(name, text)])
    (read : Read.whole (anyValue depth) text = .ok v) : FieldIs depth fields name v where
  read other mem := by
    have here : (name, other) ∈ fields.filter (·.1 = name) := List.mem_filter.2 ⟨mem, by simp⟩
    obtain rfl : other = text := by simpa [only] using here
    exact read
  given _ := ⟨text, List.mem_of_mem_filter (only ▸ List.mem_singleton_self _)⟩

theorem FieldIs.of_absent (absent : fields.filter (·.1 = name) = []) :
    FieldIs depth fields name .null where
  read text mem := absurd (List.mem_filter.2 ⟨mem, by simp⟩) (absent ▸ List.not_mem_nil)
  given given := absurd rfl given

/-- How a draft takes its fields: it is determined by those that it has seen, and from a text that
tells one of the others that one is read. -/
structure RecordShape.Fills (shape : RecordShape δ α) (depth : Nat) (tells : Nat → Bytes → Prop)
    (drafts : (Nat → Bool) → δ) : Prop where
  start : drafts (fun _ => false) = shape.draft
  isSet : ∀ seen, ∀ i < shape.names.length, shape.isSet (drafts seen) i = seen i
  assign : ∀ seen, ∀ i < shape.names.length, ∀ text, tells i text →
    Takes (shape.assign depth i (drafts seen)) text (drafts (Function.update seen i true))

section Record

variable {shape : RecordShape δ α} {tells : Nat → Bytes → Prop} {drafts : (Nat → Bool) → δ}
    {seen : Nat → Bool}

/-- The fields are read one after another, from any of them on. -/
theorem RecordShape.Fills.fromObject (h : shape.Fills depth tells drafts)
    (members : List.Forall₂ IsMember fields parts)
    (known : ∀ field ∈ fields, ∀ i, shape.names.idxOf? field.1 = some i → tells i field.2)
    (fielded : Fielded shape.names fields)
    (unseen : ∀ i ∈ places shape.names fields, seen i = false)
    (complete : shape.complete (drafts fun i => seen i || decide (i ∈ places shape.names fields)) =
      .ok a)
    (parted : Parted first parts inside)
    (here : skipBlanks input = skipBlanks (inside ++ 0x7D :: more)) (enough : parts.length < fuel) :
    shape.fromObject depth fuel first (drafts seen) input = .ok (a, more) := by
  induction members generalizing first seen inside input fuel with
  | nil =>
      obtain ⟨fuel, rfl⟩ := Nat.exists_eq_add_of_le' (by omega : 1 ≤ fuel)
      have complete : shape.complete (drafts seen) = .ok a := by simpa [places] using complete
      rw [RecordShape.fromObject]
      simp only [hasName_closing (parted.over rfl here), complete, endOfObject_closing]
      rfl
  | @cons field part fields parts member _ ih =>
      obtain ⟨name, text⟩ := field
      obtain ⟨once, others⟩ := fielded
      obtain ⟨here_known, known⟩ := List.forall_mem_cons.1 known
      obtain ⟨unknown, others⟩ := List.forall_mem_cons.1 others
      rw [List.length_cons] at enough
      obtain ⟨fuel, rfl⟩ := Nat.exists_eq_add_of_le' (by omega : 1 ≤ fuel)
      obtain ⟨inside', front, between, onward, next, named, separated⟩ := parted.member member here
      have ends := onward.endsNumeral (delimited_cons (.inr (.inr rfl)) more).endsNumeral
      rw [RecordShape.fromObject]
      simp only [next, named]
      cases place : shape.names.idxOf? name with
      | none =>
          obtain ⟨behind, passed, here⟩ :=
            (unknown (List.idxOf?_eq_none_iff.1 place)).takes.reads ends rfl
          have same : places shape.names ((name, text) :: fields) = places shape.names fields := by
            simp [places, place]
          rw [same] at once unseen complete
          simp only [separated, ok_bind, passed]
          exact ih known ⟨once, others⟩ unseen complete onward here (by omega)
      | some i =>
          obtain ⟨inside_, -⟩ := List.idxOf?_eq_some_iff.1 place
          obtain ⟨behind, read, here⟩ :=
            (h.assign seen i inside_ text (here_known i place)).reads ends rfl
          have same : places shape.names ((name, text) :: fields) =
            i :: places shape.names fields := by
            simp [places, place]
          rw [same] at once unseen complete
          obtain ⟨new, once⟩ := List.nodup_cons.1 once
          have unset : shape.isSet (drafts seen) i = false :=
            (h.isSet seen i inside_).trans (unseen i List.mem_cons_self)
          have given : (fun j => seen j || decide (j ∈ i :: places shape.names fields)) =
              fun j => Function.update seen i true j || decide (j ∈ places shape.names fields) := by
            funext j
            by_cases here : j = i <;> simp [here]
          rw [given] at complete
          simp only [unset, separated, ok_bind, read]
          refine ih known ⟨once, others⟩ (fun j mem => ?_) complete onward here (by omega)
          have other : j ≠ i := by
            rintro rfl
            exact new mem
          rw [Function.update_of_ne other]
          exact unseen j (List.mem_cons_of_mem _ mem)

/-- A record is read from the text of an object that gives its fields once, in any order. -/
theorem RecordShape.Fills.takes (h : shape.Fills (depth + 1) tells drafts)
    (object : IsObject fields text) (fielded : Fielded shape.names fields)
    (known : ∀ i, (inside : i < shape.names.length) → ∀ text, (shape.names[i], text) ∈ fields →
      tells i text)
    (complete : shape.complete (drafts fun i => decide (i ∈ places shape.names fields)) = .ok a) :
    Takes (shape.read (depth + 2)) text a := by
  obtain @⟨before, inside, after, parts, blank, members, parted, blank'⟩ := object
  refine ⟨startsValue_enclosed blank rfl (by decide), fun input more ends here => ?_⟩
  refine ⟨after ++ more, ?_, skipBlanks_append blank' more⟩
  rw [RecordShape.read, here, skipBlanks_enclosed blank rfl]
  simp only [if_neg (by decide : (0x7B : UInt8) ≠ 0x5B), if_true,
    if_neg (by omega : ¬depth + 2 ≤ 1)]
  rw [← h.start]
  have told : ∀ field ∈ fields, ∀ i, shape.names.idxOf? field.1 = some i → tells i field.2 := by
    rintro ⟨name, text⟩ mem i place
    obtain ⟨inside, rfl, -⟩ := List.idxOf?_eq_some_iff.1 place
    exact known i inside text mem
  exact h.fromObject members told fielded (fun _ _ => rfl) (by simpa using complete) parted rfl
    (parted.enough _)

end Record

end Read

end BulkIngest.Json
