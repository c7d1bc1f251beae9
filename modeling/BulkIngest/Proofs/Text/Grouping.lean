import BulkIngest.Text.Grouped
import Mathlib.Logic.Function.Defs

/-!
What commas do to a numeral. Taken out again they leave the digits as they were (`filter_separate`),
and between them stand groups of three behind a first one that has what is left over
(`splitOn_separate`). So a grouped numeral tells its number (`grouped_faithful`).
-/

namespace BulkIngest.Text

theorem filter_separate {digits : List Char} (plain : ',' ∉ digits) :
    (separate digits).filter (· ≠ ',') = digits := by
  fun_induction separate digits with
  | case1 => rfl
  | case2 c =>
      have other := List.ne_of_not_mem_cons plain
      simp [other.symm]
  | case3 c d rest full ih | case4 c d rest short ih =>
      obtain ⟨other, plain⟩ := List.ne_and_not_mem_of_not_mem_cons plain
      simpa [other.symm] using ih plain

/-- Digits in groups of three, but for the first group, which has from one to three of them. Its
exact length tells whether one more digit in front still belongs to it. -/
structure InThrees (digits first : List Char) (others : List (List Char)) : Prop where
  joined : (first :: others).flatten = digits
  leading : first.length = (digits.length - 1) % 3 + 1
  threes : ∀ group ∈ others, group.length = 3

/-- One more digit in front goes to the first group, or makes a group of its own before a full
one. -/
theorem splitOn_separate {digits : List Char} (filled : digits ≠ []) (plain : ',' ∉ digits) :
    ∃ first others, (separate digits).splitOn ',' = first :: others ∧
      InThrees digits first others := by
  fun_induction separate digits with
  | case1 => exact absurd rfl filled
  | case2 c => exact ⟨[c], [], List.splitOn_eq_singleton plain, rfl, rfl, nofun⟩
  | case3 c d rest full ih =>
      obtain ⟨other, plain⟩ := List.ne_and_not_mem_of_not_mem_cons plain
      obtain ⟨first, others, split, later⟩ := ih (List.cons_ne_nil d rest) plain
      have whole : first.length = 3 := by
        rw [later.leading, List.length_cons]
        omega
      refine ⟨[c], first :: others, ?_, ?_, ?_, List.forall_mem_cons.mpr ⟨whole, later.threes⟩⟩
      · simp [List.splitOn_cons_eq_if_modifyHead, other.symm, split]
      · rw [List.flatten_cons, later.joined, List.singleton_append]
      · simp only [List.length_cons, List.length_nil]
        omega
  | case4 c d rest short ih =>
      obtain ⟨other, plain⟩ := List.ne_and_not_mem_of_not_mem_cons plain
      obtain ⟨first, others, split, later⟩ := ih (List.cons_ne_nil d rest) plain
      refine ⟨c :: first, others, ?_, ?_, ?_, later.threes⟩
      · simp [List.splitOn_cons_eq_if_modifyHead, other.symm, split]
      · rw [List.flatten_cons, List.cons_append, ← List.flatten_cons, later.joined]
      · simp only [List.length_cons, later.leading]
        omega

theorem comma_notMem_numeral (n : Nat) : ',' ∉ Nat.toDigits 10 n := fun mem =>
  absurd (Nat.isDigit_of_mem_toDigits (by decide) (by decide) mem) (by decide)

theorem filter_grouped (n : Nat) : (grouped n).toList.filter (· ≠ ',') = Nat.toDigits 10 n := by
  rw [grouped, String.toList_ofList, filter_separate (comma_notMem_numeral n)]

/-- Without its commas a grouped numeral is the decimal numeral. Between them there are groups of
three digits, but for the first group, which has from one to three. So no two numbers look the
same. -/
theorem grouped_faithful :
    (∀ n : Nat,
      String.ofList ((grouped n).toList.filter (· ≠ ',')) = toString n ∧
      ∃ first others, ((grouped n).split ',').toList.map (·.copy) = first :: others ∧
        (1 ≤ first.length ∧ first.length ≤ 3) ∧ (∀ group ∈ others, group.length = 3) ∧
        ∀ group ∈ first :: others, ∀ c ∈ group.toList, c.isDigit) ∧
    Function.Injective grouped := by
  refine ⟨fun n => ⟨?_, ?_⟩, ?_⟩
  · rw [filter_grouped, Nat.toString_eq_ofList_toDigits]
  · obtain ⟨first, others, split, threes⟩ :=
      splitOn_separate Nat.toDigits_ne_nil (comma_notMem_numeral n)
    refine ⟨.ofList first, others.map .ofList, ?_, ?_, ?_, ?_⟩
    · rw [String.toList_split_char, grouped, String.toList_ofList, split, List.map_cons]
    · rw [String.length_ofList, threes.leading]
      omega
    · intro group mem
      obtain ⟨three, among, rfl⟩ := List.mem_map.mp mem
      rw [String.length_ofList, threes.threes three among]
    · intro group mem c inside
      rw [← List.map_cons] at mem
      obtain ⟨digits, among, rfl⟩ := List.mem_map.mp mem
      rw [String.toList_ofList] at inside
      have digit : c ∈ Nat.toDigits 10 n := threes.joined ▸ List.mem_flatten_of_mem among inside
      exact Nat.isDigit_of_mem_toDigits (by decide) (by decide) digit
  · intro m n same
    calc m = Nat.ofDigitChars 10 (Nat.toDigits 10 m) 0 := Nat.ofDigitChars_ten_toDigits.symm
      _ = Nat.ofDigitChars 10 (Nat.toDigits 10 n) 0 := by
        rw [← filter_grouped, same, filter_grouped]
      _ = n := Nat.ofDigitChars_ten_toDigits

/-- The largest number of 64 bits. -/
example : grouped 18446744073709551615 = "18,446,744,073,709,551,615" := by decide

end BulkIngest.Text
