import BulkIngest.Proofs.Sink.StoredTexts

/-!
Documents that bring no id. The id that an index in memory generates for one is new among the
generated ids, but it is not looked up, so it is new in the index if and only if no item before it
brought the same id. If one did, the document is refused, or takes the place of that one.
-/

namespace BulkIngest.MemorySink

variable {sink : MemorySink} {key : StoredKey} {generated : Nat} {item : BulkItem}
  {items : List BulkItem} {held : List String}

theorem length_settled_le (single : held.length ≤ 1) : (settled items held).length ≤ 1 := by
  induction items generalizing held with
  | nil => exact single
  | cons item rest ih => exact ih (item.length_settle_le single)

theorem generatedId_injective {i j : Nat} (same : s!"auto-{i}" = s!"auto-{j}") : i = j := by
  have digits : Nat.toDigits 10 i = Nat.toDigits 10 j :=
    String.ofList_inj.mp ((String.append_right_inj "auto-").mp same)
  rw [← Nat.ofDigitChars_ten_toDigits (n := i), digits, Nat.ofDigitChars_ten_toDigits]

/-- What is put under a key brought its id, or the id is one of those generated meanwhile. -/
theorem mem_itemsUnder (mem : item ∈ itemsUnder key generated items) :
    (item ∈ items ∧ item.ref.key = some key.2 ∧ item.index = key.1) ∨
      ∃ j, generated < j ∧ j ≤ generated + items.countP (·.ref.key.isNone) ∧
        key.2 = s!"auto-{j}" := by
  induction items generalizing generated with
  | nil => simp [itemsUnder, addressed] at mem
  | cons first rest ih =>
      have grown : generated ≤ first.generatedAfter generated ∧
          first.generatedAfter generated + rest.countP (·.ref.key.isNone) =
            generated + (first :: rest).countP (·.ref.key.isNone) := by
        rw [BulkItem.generatedAfter, List.countP_cons]
        split <;> omega
      have later : item ∈ itemsUnder key (first.generatedAfter generated) rest →
          (item ∈ first :: rest ∧ item.ref.key = some key.2 ∧ item.index = key.1) ∨
            ∃ j, generated < j ∧ j ≤ generated + (first :: rest).countP (·.ref.key.isNone) ∧
              key.2 = s!"auto-{j}" := by
        intro mem
        cases ih mem with
        | inl brought => exact .inl ⟨List.mem_cons_of_mem _ brought.1, brought.2⟩
        | inr made =>
            obtain ⟨j, above, below, same⟩ := made
            exact .inr ⟨j, by omega, by omega, same⟩
      rw [itemsUnder_cons] at mem
      split at mem
      · rename_i here
        cases mem with
        | tail _ mem => exact later mem
        | head =>
            subst here
            cases brought : item.ref.key with
            | some id => simp [BulkItem.idAfter, brought]
            | none =>
                refine .inr ⟨generated + 1, Nat.lt_succ_self _, ?_, ?_⟩
                · rw [List.countP_cons, brought]
                  simp
                · rw [BulkItem.idAfter, brought, Option.getD_none]
      · exact later mem

/-- Something is put under the next generated id if and only if an item brings the very id. -/
theorem itemsUnder_generated_ne_nil_iff {index : String} :
    itemsUnder (index, s!"auto-{items.countP (·.ref.key.isNone) + 1}") 0 items ≠ [] ↔
      ∃ other ∈ items, other.ref.key = some s!"auto-{items.countP (·.ref.key.isNone) + 1}" ∧
        other.index = index := by
  constructor
  · intro there
    obtain ⟨other, mem⟩ := List.exists_mem_of_ne_nil _ there
    cases mem_itemsUnder mem with
    | inl brought => exact ⟨other, brought⟩
    | inr made =>
        obtain ⟨j, -, below, same⟩ := made
        have next := generatedId_injective same
        omega
  · rintro ⟨other, mem, brought, here⟩
    exact List.ne_nil_of_mem (mem_itemsUnder_of_brought mem brought here)

/-- A sink that has got a request of that size and has put the first of its items. -/
def amid (sink : MemorySink) (size : Nat) (before : List BulkItem) : MemorySink :=
  (putAll { sink with batchSizes := sink.batchSizes ++ [size] } before).2

theorem amid_bulkAll (sink : MemorySink) (earlier : List Batch) (size : Nat)
    (before : List BulkItem) :
    (sink.bulkAll earlier).2.amid size before =
      { (sink.putAll (earlier.flatMap (·.items) ++ before)).2 with
        batchSizes := sink.batchSizes ++ earlier.map (·.size) ++ [size] } := by
  rw [amid, putAll_sized, (sink.bulkAll_eq earlier).2, putAll_sized, putAll_append]

/-- The item is stored under a new id, and nothing else changes. -/
structure StoredAnew (sink : MemorySink) (item : BulkItem) (id : String) : Prop where
  free : sink.text? (item.index, id) = none
  accepted : (sink.put item).1 = .accepted (some id)
  stored : (sink.put item).2.text? (item.index, id) = some item.source
  kept : ∀ key, key ≠ (item.index, id) → (sink.put item).2.text? key = sink.text? key
  grown : (sink.put item).2.count item.index = sink.count item.index + 1
  elsewhere : ∀ index, index ≠ item.index → (sink.put item).2.count index = sink.count index

/-- There is a document with the id already: the item is refused, or takes its place. -/
structure Collided (sink : MemorySink) (item : BulkItem) (id : String) : Prop where
  taken : ∃ text, sink.text? (item.index, id) = some text
  refused : item.action = .create →
    (sink.put item).1 = conflict id ∧ ∀ key, (sink.put item).2.text? key = sink.text? key
  replaced : item.action = .index →
    (sink.put item).1 = .accepted (some id) ∧
      (sink.put item).2.text? (item.index, id) = some item.source
  counts : ∀ index, (sink.put item).2.count index = sink.count index

theorem storedAnew_of_free {id : String} (named : sink.keyFor item = (item.index, id))
    (free : sink.texts (item.index, id) = []) : sink.StoredAnew item id := by
  have single : (sink.texts (sink.keyFor item)).length ≤ 1 := by simp [named, free]
  exact {
    free := text?_eq_none_iff.mpr free
    accepted := by
      rw [status_put, named, if_neg fun there => there.2 free]
    stored := by
      rw [text?_eq, texts_put, named, if_pos rfl, free, BulkItem.settle_nil, List.head?_cons]
    kept := by
      intro key different
      rw [text?_eq, texts_put, named, if_neg different, text?_eq]
    grown := by rw [count_put single, named, if_pos ⟨rfl, free⟩]
    elsewhere := by
      intro index different
      rw [count_put single, if_neg fun here => different here.1.symm, Nat.add_zero] }

theorem collided_of_taken {id : String} (named : sink.keyFor item = (item.index, id))
    (taken : sink.texts (item.index, id) ≠ [])
    (single : (sink.texts (item.index, id)).length ≤ 1) : sink.Collided item id where
  taken := Option.ne_none_iff_exists'.mp (mt text?_eq_none_iff.mp taken)
  refused := by
    intro create
    refine ⟨by rw [status_put, named, if_pos ⟨create, taken⟩], fun key => ?_⟩
    rw [text?_eq, text?_eq, texts_put]
    split
    · rename_i here
      rw [here, named, BulkItem.settle_of_create create taken]
    · rfl
  replaced := by
    intro overwrites
    refine ⟨by rw [status_put, named, if_neg (by simp [overwrites])], ?_⟩
    rw [text?_eq, texts_put, named, if_pos rfl, BulkItem.settle_of_index overwrites,
      List.head?_cons]
  counts := by
    intro index
    rw [count_put (by rwa [named]), named, if_neg fun free => taken free.2, Nat.add_zero]

theorem storedAnew_iff {id : String} (named : sink.keyFor item = (item.index, id)) :
    sink.StoredAnew item id ↔ sink.texts (item.index, id) = [] :=
  ⟨fun anew => text?_eq_none_iff.mp anew.free, storedAnew_of_free named⟩

theorem collided_iff {id : String} (named : sink.keyFor item = (item.index, id))
    (single : (sink.texts (item.index, id)).length ≤ 1) :
    sink.Collided item id ↔ sink.texts (item.index, id) ≠ [] := by
  constructor
  · intro collided free
    obtain ⟨text, held⟩ := collided.taken
    rw [text?_eq_none_iff.mpr free] at held
    contradiction
  · intro taken
    exact collided_of_taken named taken single

/-- In the middle of any requests, a document that brings no id gets the next generated id. It is
stored under that id as one more document of its index, and nothing else changes, if and only if no
item so far brought the very id for the same index; else it collides with what was stored for that
item. -/
theorem keyless_stored_anew_unless_brought (earlier : List Batch) (batch : Batch)
    (before rest : List BulkItem) (item : BulkItem) (split : batch.items = before ++ item :: rest)
    (keyless : item.ref.key = none) :
    let opened := (empty.bulkAll earlier).2
    let sink := opened.amid batch.size before
    let given := earlier.flatMap (·.items) ++ before
    let id := (sink.identify item).1
    let brought := ∃ other ∈ given, other.ref.key = some id ∧ other.index = item.index
    id = s!"auto-{given.countP (·.ref.key.isNone) + 1}" ∧
    (opened.bulk batch).1[before.length]? = some (sink.put item).1 ∧
    (opened.bulk batch).2 = ((sink.put item).2.putAll rest).2 ∧
    (sink.StoredAnew item id ↔ ¬brought) ∧ (sink.Collided item id ↔ brought) := by
  intro opened sink given id brought
  have midway := empty.amid_bulkAll earlier batch.size before
  have texts : ∀ key, sink.texts key = settled (itemsUnder key 0 given) [] := by
    intro key
    change ((empty.bulkAll earlier).2.amid batch.size before).texts key = _
    rw [midway]
    exact empty.texts_putAll given key
  have generated : sink.generated = given.countP (·.ref.key.isNone) := by
    change ((empty.bulkAll earlier).2.amid batch.size before).generated = _
    rw [midway]
    exact (empty.generated_putAll given).trans (Nat.zero_add _)
  have named : sink.keyFor item = (item.index, id) := sink.keyFor_eq item
  have next : id = s!"auto-{given.countP (·.ref.key.isNone) + 1}" := by
    rw [← generated]
    simp only [id, identify, keyless]
  have single : (sink.texts (item.index, id)).length ≤ 1 := by
    rw [texts]
    exact length_settled_le (Nat.zero_le 1)
  have taken_iff : sink.texts (item.index, id) ≠ [] ↔ brought := by
    rw [texts, ne_eq, settled_eq_nil_iff, and_iff_left rfl]
    simp only [brought, next]
    exact itemsUnder_generated_ne_nil_iff
  have answered : opened.bulk batch =
      ((putAll { opened with batchSizes := opened.batchSizes ++ [batch.size] } before).1 ++
        (sink.put item).1 :: ((sink.put item).2.putAll rest).1,
        ((sink.put item).2.putAll rest).2) := by
    change putAll _ batch.items = _
    rw [split, putAll_append]
    rfl
  refine ⟨next, ?_, by rw [answered], ?_, (collided_iff named single).trans taken_iff⟩
  · rw [answered, List.getElem?_append_right (Nat.le_of_eq (length_putAll _ _)), length_putAll,
      Nat.sub_self, List.getElem?_cons_zero]
  · rw [storedAnew_iff named, ← taken_iff, ne_eq, Decidable.not_not]

def emptyItem (key : Option String) (action : BulkAction) : BulkItem :=
  .make ⟨0, key⟩ action "idx" none []

/-- A document that brings the id which the second document without one will get. -/
def foresight : Batch := .ofItems 1 [emptyItem (some "auto-2") .index]

def keylessPair : Batch := .ofItems 2 [emptyItem none .index, emptyItem none .create]

theorem keyless_stored_anew_unless_brought_foresight :
    keylessPair.items = [emptyItem none .index] ++ emptyItem none .create :: [] ∧
    (emptyItem none .create).ref.key = none ∧
    ((empty.bulkAll [foresight]).2.amid 2 []).StoredAnew (emptyItem none .index) "auto-1" ∧
    ((empty.bulkAll [foresight]).2.amid 2 [emptyItem none .index]).Collided (emptyItem none .create)
      "auto-2" ∧
    ((empty.bulkAll [foresight]).2.bulk keylessPair).1 =
      [.accepted (some "auto-1"), conflict "auto-2"] := by
  obtain ⟨-, -, -, anew, -⟩ := keyless_stored_anew_unless_brought [foresight] keylessPair []
    [emptyItem none .create] (emptyItem none .index) rfl rfl
  obtain ⟨-, -, -, -, collided⟩ := keyless_stored_anew_unless_brought [foresight] keylessPair
    [emptyItem none .index] [] (emptyItem none .create) rfl rfl
  refine ⟨rfl, rfl, anew.mpr ?_, collided.mpr ?_, by rfl⟩
  · rintro ⟨other, mem, brought, -⟩
    obtain rfl := List.mem_singleton.mp mem
    exact absurd brought (by decide)
  · exact ⟨_, List.mem_cons_self, rfl, rfl⟩

/-- The id that is generated first need not be new. -/
theorem not_all_keyless_stored_anew :
    ¬ ∀ (earlier : List Batch) (batch : Batch) (before rest : List BulkItem) (item : BulkItem),
      batch.items = before ++ item :: rest → item.ref.key = none →
        let sink := (empty.bulkAll earlier).2.amid batch.size before
        sink.StoredAnew item (sink.identify item).1 := by
  intro all
  have anew := all [.ofItems 1 [emptyItem (some "auto-1") .index]]
    (.ofItems 2 [emptyItem none .index]) [] [] (emptyItem none .index) rfl rfl
  exact absurd anew.grown (by decide)

end BulkIngest.MemorySink
