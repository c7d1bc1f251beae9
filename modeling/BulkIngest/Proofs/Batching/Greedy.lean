import BulkIngest.Proofs.Batching.Bounds
import Mathlib.Algebra.Order.Floor.Div
import Mathlib.Data.List.Chain

/-!
Batches are as few as the bounds allow. A batcher closes a batch only when the next item has no room
in it, and that alone makes any way of cutting a list the shortest one: wherever another way is at
the end of one of its parts, it has not come further than this one at the end of the batch with the
same number. The induction is on the batches; the other way may even have more items in front of
those.
-/

namespace BulkIngest.Batcher

variable {maxCount maxBytes : Nat} {batcher : Batcher} {item : BulkItem} {batch : Batch}
  {part front back one next : List BulkItem} {parts groups : List (List BulkItem)}

/-- The first request has no room for the first item of the next one. -/
def Complete (maxCount maxBytes : Nat) (one next : List BulkItem) : Prop :=
  one.length = maxCount ∨ ∃ item ∈ next.head?, maxBytes < encodedLength (one ++ [item])

theorem Allowed.shorten (h : Allowed maxCount maxBytes part) (inside : one <:+: part)
    (filled : one ≠ []) : Allowed maxCount maxBytes one where
  filled := filled
  count := Nat.le_trans inside.length_le h.count
  bytes := by
    have pos := List.length_pos_iff.mpr filled
    have shorter := inside.length_le
    cases h.bytes with
    | inl single => exact .inl (by omega)
    | inr within =>
        obtain ⟨before, behind, rfl⟩ := inside
        rw [encodedLength_append, encodedLength_append] at within
        exact .inr (by omega)

theorem Complete.not_allowed (h : Complete maxCount maxBytes one next) (filled : one ≠ [])
    (first : item ∈ next.head?) : ¬ Allowed maxCount maxBytes (one ++ [item]) := by
  intro allowed
  have pos := List.length_pos_iff.mpr filled
  have longer : (one ++ [item]).length = one.length + 1 := by simp
  obtain full | ⟨other, same, heavy⟩ := h
  · have count := allowed.count
    omega
  · obtain rfl := Option.mem_unique first same
    cases allowed.bytes with
    | inl single => omega
    | inr within => exact Nat.not_le_of_lt heavy within

/-- Another way of cutting that is past the items of a request which has no room for more has used
up one of its parts. -/
theorem exists_parts_behind (allowed : ∀ part ∈ parts, Allowed maxCount maxBytes part)
    (filled : front ≠ [])
    (complete : ∀ item ∈ back.head?, ¬ Allowed maxCount maxBytes (front ++ [item]))
    (inside : front ++ back <:+ parts.flatten) :
    ∃ rest, rest <:+ parts ∧ rest.length < parts.length ∧ back <:+ rest.flatten := by
  induction parts with
  | nil =>
      have nothing : front ++ back = [] := List.suffix_nil.mp inside
      exact absurd (List.append_eq_nil_iff.mp nothing).1 filled
  | cons part rest ih =>
      have behind : rest <:+ part :: rest := List.suffix_cons part rest
      have fewer : rest.length < (part :: rest).length := Nat.lt_succ_self _
      obtain ⟨before, joined⟩ := inside
      rw [List.flatten_cons] at joined
      obtain ⟨tail, within, joined⟩ | ⟨between, -, later⟩ := List.append_eq_append_iff.mp joined
      · obtain ⟨more, covered, rfl⟩ | ⟨missing, -, later⟩ := List.append_eq_append_iff.mp joined
        · -- the part covers all of `front`, and not even one item more would be allowed
          cases more with
          | nil => exact ⟨rest, behind, fewer, List.suffix_refl _⟩
          | cons item more =>
              have contained : front ++ [item] <:+: part :=
                ⟨before, more, by simp [within, covered]⟩
              exact absurd ((allowed part List.mem_cons_self).shorten contained (by simp))
                (complete item rfl)
        · exact ⟨rest, behind, fewer, missing, later.symm⟩
      · obtain ⟨last, inside, shorter, reached⟩ := ih
          (fun part mem => allowed part (List.mem_cons_of_mem _ mem)) ⟨between, later.symm⟩
        exact ⟨last, inside.trans behind, Nat.lt_trans shorter fewer, reached⟩

/-- The items of the first group come first. -/
theorem head?_flatten (filled : ∀ group ∈ groups, group ≠ []) (first : one ∈ groups.head?) :
    groups.flatten.head? = one.head? := by
  cases groups with
  | nil => contradiction
  | cons group rest =>
      obtain rfl := Option.some.inj first
      rw [List.flatten_cons, List.head?_append_of_ne_nil _ (filled group List.mem_cons_self)]

theorem length_le_of_complete (filled : ∀ group ∈ groups, group ≠ [])
    (complete : groups.IsChain (Complete maxCount maxBytes))
    (allowed : ∀ part ∈ parts, Allowed maxCount maxBytes part)
    (inside : groups.flatten <:+ parts.flatten) : groups.length ≤ parts.length := by
  induction groups generalizing parts with
  | nil => exact Nat.zero_le _
  | cons group groups ih =>
      obtain ⟨first, complete⟩ := List.isChain_cons.mp complete
      have later : ∀ group ∈ groups, group ≠ [] := fun group mem =>
        filled group (List.mem_cons_of_mem _ mem)
      have full : ∀ item ∈ groups.flatten.head?, ¬ Allowed maxCount maxBytes (group ++ [item]) := by
        intro item here
        cases opening : groups.head? with
        | none =>
            rw [List.head?_eq_none_iff.mp opening] at here
            contradiction
        | some next =>
            rw [head?_flatten later opening] at here
            exact (first next opening).not_allowed (filled group List.mem_cons_self) here
      obtain ⟨rest, behind, fewer, reached⟩ :=
        exists_parts_behind allowed (filled group List.mem_cons_self) full inside
      have shorter := ih later complete (fun part mem => allowed part (behind.subset mem)) reached
      exact Nat.lt_of_le_of_lt shorter fewer

/-- Where the bound on bytes leaves room for as many items as the one on their number, only the
latter ends a request. -/
theorem full_of_complete (complete : groups.IsChain (Complete maxCount maxBytes))
    (count : ∀ group ∈ groups, group.length ≤ maxCount)
    (light : ∀ part, part <:+: groups.flatten → part.length ≤ maxCount →
      encodedLength part ≤ maxBytes) :
    groups.IsChain fun one _ => one.length = maxCount := by
  induction groups with
  | nil => exact .nil
  | cons group groups ih =>
      obtain ⟨first, complete⟩ := List.isChain_cons.mp complete
      refine List.isChain_cons.mpr ⟨?_, ih complete ?_ ?_⟩
      · intro next opening
        obtain full | ⟨item, begins, heavy⟩ := first next opening
        · exact full
        · have most := count group List.mem_cons_self
          by_contra notFull
          obtain ⟨more, rfl⟩ := List.head?_eq_some_iff.mp begins
          obtain ⟨rest, rfl⟩ := List.head?_eq_some_iff.mp opening
          have inside : group ++ [item] <:+: (group :: (item :: more) :: rest).flatten :=
            ⟨[], more ++ rest.flatten, by simp⟩
          have short : (group ++ [item]).length ≤ maxCount := by
            rw [List.length_append, List.length_singleton]
            omega
          exact Nat.not_le_of_lt heavy (light _ inside short)
      · exact fun group mem => count group (List.mem_cons_of_mem _ mem)
      · exact fun part inside => light part (inside.trans (List.suffix_append _ _).isInfix)

theorem length_of_full (positive : 1 ≤ maxCount) (filled : ∀ group ∈ groups, group ≠ [])
    (count : ∀ group ∈ groups, group.length ≤ maxCount)
    (full : groups.IsChain fun one _ => one.length = maxCount) :
    groups.length = groups.flatten.length ⌈/⌉ maxCount := by
  induction groups with
  | nil => simp
  | cons group groups ih =>
      obtain ⟨first, full⟩ := List.isChain_cons.mp full
      have pos := List.length_pos_iff.mpr (filled group List.mem_cons_self)
      have most := count group List.mem_cons_self
      have later := ih (fun group mem => filled group (List.mem_cons_of_mem _ mem))
        (fun group mem => count group (List.mem_cons_of_mem _ mem)) full
      rw [Nat.ceilDiv_eq_add_pred_div] at later ⊢
      rw [List.length_cons, List.flatten_cons, List.length_append]
      cases groups with
      | nil =>
          have one_ : (group.length + 0 + maxCount - 1) / maxCount = 1 := by
            rw [Nat.div_eq_iff (by omega)]
            omega
          rw [List.flatten_nil, List.length_nil, List.length_nil, one_]
      | cons next rest =>
          have split : group.length + (next :: rest).flatten.length + maxCount - 1 =
              (next :: rest).flatten.length + maxCount - 1 + maxCount := by
            rw [first next rfl]
            omega
          rw [split, Nat.add_div_right _ positive, later]

theorem items_of_flush (handed : batcher.flush.1 = some batch) : batch.items = batcher.pending := by
  simp only [flush] at handed
  split at handed
  · contradiction
  · rw [← Option.some.inj handed]

/-- A batch leaves when it is full, or for an item that would make it too long. -/
theorem complete_push (room : batcher.Roomy) (weighed : batcher.Weighed)
    (handed : (batcher.push item).1 = some batch) :
    batch.size = batcher.maxCount ∨
      (batcher.push item).2.pending = [item] ∧
        batcher.maxBytes < encodedLength (batch.items ++ [item]) := by
  simp only [push] at handed ⊢
  split at handed
  · rename_i passed
    rw [if_pos passed]
    simp only [Bool.and_eq_true, decide_eq_true_eq] at passed
    refine .inr ⟨by simp only [append, pending_flush, List.nil_append], ?_⟩
    rw [encodedLength_append, items_of_flush handed, ← weighed]
    exact passed.2
  · split at handed
    · rename_i full
      have items := items_of_flush handed
      have longer : (batcher.append item).pending.length = batcher.pending.length + 1 := by
        simp [append]
      have count := room.count
      refine .inl ?_
      rw [Batch.size, items]
      simp only [append] at full longer ⊢
      omega
    · contradiction

theorem cut_eq_run (batcher : Batcher) (items : List BulkItem) :
    batcher.cut items = (batcher.run (items.map .push ++ [.flush])).1 := by
  induction items generalizing batcher with
  | nil => simp only [cut, List.map_nil, List.nil_append, run, answer, List.append_nil]
  | cons item rest ih => simp only [cut, List.map_cons, List.cons_append, run, answer, ih]

theorem filled_cut (batcher : Batcher) (items : List BulkItem) :
    ∀ batch ∈ batcher.cut items, batch.items ≠ [] := by
  rw [cut_eq_run]
  exact (batcher.handsOver_run _).filled

theorem items_cut (batcher : Batcher) (items : List BulkItem) :
    ((batcher.cut items).map (·.items)).flatten = batcher.pending ++ items := by
  induction items generalizing batcher with
  | nil =>
      have hands := batcher.handsOver_flush.items
      rwa [pending_flush, List.append_nil, List.flatMap_def] at hands
  | cons item rest ih =>
      have hands := (batcher.handsOver_push item).items
      rw [cut, List.map_append, List.flatten_append, ih, ← List.append_assoc, ← List.flatMap_def,
        hands, List.append_assoc, List.singleton_append]

theorem complete_cut (room : batcher.Roomy) (weighed : batcher.Weighed) (items : List BulkItem) :
    ((batcher.cut items).map (·.items)).IsChain (Complete batcher.maxCount batcher.maxBytes) := by
  induction items generalizing batcher with
  | nil =>
      rw [cut]
      cases batcher.flush.1 with
      | none => exact .nil
      | some batch => exact .singleton _
  | cons item rest ih =>
      have kept := keepsBounds_push room item
      have later := ih kept.room ((batcher.handsOver_push item).weighed weighed).1
      rw [kept.maxCount, kept.maxBytes] at later
      rw [cut]
      cases handed : (batcher.push item).1 with
      | none => exact later
      | some batch =>
          refine List.isChain_cons.mpr ⟨fun next opening => ?_, later⟩
          obtain full | ⟨alone, heavy⟩ := complete_push room weighed handed
          · exact .inl full
          · -- nothing else is pending, so the item that closed the batch is the first of the next
            refine .inr ⟨item, ?_, heavy⟩
            have filled : ∀ group ∈ ((batcher.push item).2.cut rest).map (·.items), group ≠ [] := by
              simpa using filled_cut (batcher.push item).2 rest
            rw [← head?_flatten filled opening, items_cut, alone]
            rfl

/-- Items that are given in order and then demanded are cut into batches of which each but the last
has no room for the first item of the next one. So no other way to cut the list into requests that
the bounds allow makes fewer of them. Where the bound on bytes is never met, they are as many as the
items make full batches, and all but the last are full. -/
theorem batches_fewest (maxCount maxBytes : Nat) (items : List BulkItem) (counts : 1 ≤ maxCount)
    (weighs : 1 ≤ maxBytes) :
    let batches := ((empty maxCount maxBytes).run (items.map .push ++ [.flush])).1
    let groups := batches.map (·.items)
    groups.IsChain (Complete maxCount maxBytes) ∧
      (groups.flatten = items ∧ ∀ group ∈ groups, Allowed maxCount maxBytes group) ∧
      (∀ parts : List (List BulkItem), parts.flatten = items →
        (∀ part ∈ parts, Allowed maxCount maxBytes part) → batches.length ≤ parts.length) ∧
      ((∀ part, part <:+: items → part.length ≤ maxCount → encodedLength part ≤ maxBytes) →
        batches.length = items.length ⌈/⌉ maxCount ∧
          groups.IsChain fun group _ => group.length = maxCount) := by
  intro batches groups
  have cut : batches = (empty maxCount maxBytes).cut items :=
    ((empty maxCount maxBytes).cut_eq_run items).symm
  have bounds : max maxCount 1 = maxCount ∧ max maxBytes 1 = maxBytes :=
    ⟨Nat.max_eq_left counts, Nat.max_eq_left weighs⟩
  have whole : groups.flatten = items := by
    simp only [groups, cut, items_cut]
    rfl
  have allowed : ∀ group ∈ groups, Allowed maxCount maxBytes group := by
    intro group mem
    obtain ⟨batch, handed, rfl⟩ := List.mem_map.mp mem
    have within := allowed_run maxCount maxBytes _ batch handed
    rwa [bounds.1, bounds.2] at within
  have complete : groups.IsChain (Complete maxCount maxBytes) := by
    have closed := complete_cut (roomy_empty maxCount maxBytes)
      (weighed_empty maxCount maxBytes) items
    rw [← cut] at closed
    rw [← bounds.1, ← bounds.2]
    exact closed
  have filled : ∀ group ∈ groups, group ≠ [] := fun group mem => (allowed group mem).filled
  have count : ∀ group ∈ groups, group.length ≤ maxCount :=
    fun group mem => (allowed group mem).count
  have length : groups.length = batches.length := List.length_map _
  refine ⟨complete, ⟨whole, allowed⟩, ?_, ?_⟩
  · intro parts covers others
    rw [← length]
    apply length_le_of_complete filled complete others
    rw [whole, covers]
  · intro light
    have full := full_of_complete complete count (whole ▸ light)
    rw [← length, length_of_full counts filled count full, whole]
    exact ⟨rfl, full⟩

def noted (text : String) : BulkItem := .make ⟨0, none⟩ .index "idx" none [("note", .string text)]

/-- Two short items make a full batch; the fourth item is too long by itself. -/
def notes : List BulkItem :=
  [noted "", noted "", noted "", noted "as long as both of its neighbours together", noted ""]

theorem batches_fewest_notes :
    1 ≤ 2 ∧ 1 ≤ 80 ∧
      ((empty 2 80).run (notes.map .push ++ [.flush])).1.map (·.size) = [2, 1, 1, 1] ∧
      ∀ parts : List (List BulkItem), parts.flatten = notes →
        (∀ part ∈ parts, Allowed 2 80 part) → 4 ≤ parts.length := by
  obtain ⟨-, -, fewest, -⟩ := batches_fewest 2 80 notes (by decide) (by decide)
  exact ⟨by decide, by decide, by rfl, fewest⟩

end BulkIngest.Batcher
