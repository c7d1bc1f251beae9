import BulkIngest.Bulk.Batch
import BulkIngest.Sink.Memory

/-!
What an index in memory holds. `texts` is what is stored under a key; an item changes what is stored
under its own key only, and `settle` says how. Which keys the items have depends on how many ids
were generated before them and on nothing else, so `addressed` gives the keys of a list of items in
advance, and `texts_putAll` says what is stored in the end: for each key the items with that key
settle it, in order. How the items are cut into requests makes no difference.
-/

namespace BulkIngest

namespace BulkItem

/-- The id of an item that comes after so many generated ids. -/
def idAfter (generated : Nat) (item : BulkItem) : String :=
  item.ref.key.getD s!"auto-{generated + 1}"

/-- How many ids have been generated with the item. -/
def generatedAfter (generated : Nat) (item : BulkItem) : Nat :=
  if item.ref.key.isNone then generated + 1 else generated

/-- What is stored under the key of an item once it has been put, by what was stored there. -/
def settle (item : BulkItem) (texts : List String) : List String :=
  if item.action = .create ∧ texts ≠ [] then texts else [item.source]

variable {item : BulkItem} {texts : List String}

theorem settle_nil (item : BulkItem) : item.settle [] = [item.source] :=
  if_neg fun there => there.2 rfl

theorem settle_of_index (overwrites : item.action = .index) (texts : List String) :
    item.settle texts = [item.source] := if_neg (by simp [overwrites])

theorem settle_of_create (refuses : item.action = .create) (there : texts ≠ []) :
    item.settle texts = texts := if_pos ⟨refuses, there⟩

theorem settle_ne_nil (item : BulkItem) (texts : List String) : item.settle texts ≠ [] := by
  rw [settle]
  split
  · rename_i kept
    exact kept.2
  · simp

theorem length_settle_le (single : texts.length ≤ 1) : (item.settle texts).length ≤ 1 := by
  rw [settle]
  split
  · exact single
  · exact Nat.le_refl 1

end BulkItem

namespace MemorySink

variable {sink : MemorySink} {key : StoredKey} {item : BulkItem} {items : List BulkItem}
  {generated : Nat} {held : List String}

/-- The texts stored under a key, the latest first. -/
def texts (sink : MemorySink) (key : StoredKey) : List String :=
  sink.stored.filterMap fun entry => if key = entry.1 then some entry.2 else none

theorem text?_eq (sink : MemorySink) (key : StoredKey) :
    sink.text? key = (sink.texts key).head? := by
  rw [text?, texts, List.lookup_eq_findSome?, List.head?_filterMap]
  simp only [beq_iff_eq]

theorem text?_eq_none_iff : sink.text? key = none ↔ sink.texts key = [] := by
  rw [text?_eq, List.head?_eq_none_iff]

theorem contains_iff : sink.contains key = true ↔ sink.texts key ≠ [] := by
  rw [contains, Option.isSome_iff_ne_none, ne_eq, text?_eq_none_iff]

@[simp]
theorem texts_store (sink : MemorySink) (key : StoredKey) (text : String) (other : StoredKey) :
    (sink.store key text).texts other = if other = key then [text] else sink.texts other := by
  by_cases same : other = key
  · subst same
    simp only [store, texts, List.filterMap_cons, if_true, List.filterMap_filter]
    simp only [List.cons.injEq, true_and, List.filterMap_eq_nil_iff]
    intro entry _
    by_cases here : other = entry.1 <;> simp [here]
  · simp only [store, texts, List.filterMap_cons, if_neg same, List.filterMap_filter]
    congr 1
    funext entry
    by_cases here : other = entry.1
    · have kept : entry.1 ≠ key := here ▸ same
      simp [here, kept]
    · simp [here]

/-- What is counted of an index when a text is stored in it: one more, and less what was under the
key. -/
theorem count_store (sink : MemorySink) (key : StoredKey) (text : String) (index : String) :
    (sink.store key text).count index + (if key.1 = index then (sink.texts key).length else 0) =
      sink.count index + (if key.1 = index then 1 else 0) := by
  have parts := List.countP_eq_countP_filter_add sink.stored (·.1.1 = index) (·.1 ≠ key)
  have under : (sink.stored.filter fun entry => !decide (entry.1 ≠ key)).countP (·.1.1 = index) =
      if key.1 = index then (sink.texts key).length else 0 := by
    rw [texts, List.length_filterMap_eq_countP, List.countP_filter]
    split
    · rename_i here
      apply List.countP_congr
      intro entry _
      by_cases same : key = entry.1
      · simp [← same, here]
      · simp [same, Ne.symm same]
    · rename_i elsewhere
      rw [List.countP_eq_zero]
      intro entry _
      by_cases same : entry.1 = key <;> simp [same, elsewhere]
  rw [under] at parts
  simp only [count, store, List.countP_cons, decide_eq_true_eq]
  omega

/-- Two sinks that hold the same under every key hold the same altogether. -/
theorem perm_of_texts {one two : MemorySink} (same : ∀ key, one.texts key = two.texts key) :
    one.stored.Perm two.stored := by
  have counted : ∀ (sink : MemorySink) (entry : StoredKey × String),
      sink.stored.count entry = (sink.texts entry.1).count entry.2 := by
    intro sink entry
    rw [texts, List.count, List.count, List.countP_filterMap]
    apply List.countP_congr
    intro held _
    by_cases here : entry.1 = held.1
    · simp [here, Prod.ext_iff]
    · simp [here, Prod.ext_iff, Ne.symm here]
  rw [List.perm_iff_count]
  intro entry
  rw [counted, counted, same]

/-- The key under which the sink puts an item. -/
def keyFor (sink : MemorySink) (item : BulkItem) : StoredKey :=
  (item.index, item.idAfter sink.generated)

theorem identify_eq (sink : MemorySink) (item : BulkItem) :
    sink.identify item = ((sink.keyFor item).2,
      { sink with generated := item.generatedAfter sink.generated }) := by
  simp only [identify, keyFor, BulkItem.idAfter, BulkItem.generatedAfter]
  cases item.ref.key <;> rfl

theorem keyFor_eq (sink : MemorySink) (item : BulkItem) :
    sink.keyFor item = (item.index, (sink.identify item).1) := by
  rw [identify_eq]
  rfl

/-- An item that is to be created under a key that is there already is refused, any other is
stored. -/
theorem put_eq (sink : MemorySink) (item : BulkItem) :
    sink.put item =
      let counted := { sink with generated := item.generatedAfter sink.generated }
      if item.action = .create ∧ sink.contains (sink.keyFor item) = true then
        (conflict (sink.keyFor item).2, counted)
      else (.accepted (some (sink.keyFor item).2),
        counted.store (sink.keyFor item) item.source) := by
  rw [put, identify_eq]
  rfl

theorem status_put (sink : MemorySink) (item : BulkItem) :
    (sink.put item).1 =
      if item.action = .create ∧ sink.texts (sink.keyFor item) ≠ [] then
        conflict (sink.keyFor item).2
      else .accepted (some (sink.keyFor item).2) := by
  simp only [put_eq, contains_iff]
  split <;> rfl

@[simp]
theorem generated_put (sink : MemorySink) (item : BulkItem) :
    (sink.put item).2.generated = item.generatedAfter sink.generated := by
  simp only [put_eq]
  split <;> rfl

@[simp]
theorem texts_put (sink : MemorySink) (item : BulkItem) (key : StoredKey) :
    (sink.put item).2.texts key =
      if key = sink.keyFor item then item.settle (sink.texts key) else sink.texts key := by
  simp only [put_eq, contains_iff]
  by_cases refused : item.action = .create ∧ sink.texts (sink.keyFor item) ≠ []
  · rw [if_pos refused]
    change sink.texts key = _
    split
    · rename_i here
      rw [here, BulkItem.settle, if_pos refused]
    · rfl
  · rw [if_neg refused, texts_store]
    split
    · rename_i here
      rw [here, BulkItem.settle, if_neg refused]
    · rfl

theorem count_put (single : (sink.texts (sink.keyFor item)).length ≤ 1) (index : String) :
    (sink.put item).2.count index =
      sink.count index +
        (if item.index = index ∧ sink.texts (sink.keyFor item) = [] then 1 else 0) := by
  simp only [put_eq, contains_iff]
  by_cases refused : item.action = .create ∧ sink.texts (sink.keyFor item) ≠ []
  · rw [if_pos refused, if_neg fun free => refused.2 free.2]
    rfl
  · rw [if_neg refused]
    have counted := count_store { sink with generated := item.generatedAfter sink.generated }
      (sink.keyFor item) item.source index
    change _ + (if item.index = index then (sink.texts (sink.keyFor item)).length else 0) =
      sink.count index + (if item.index = index then 1 else 0) at counted
    by_cases here : item.index = index
    · cases held : sink.texts (sink.keyFor item) with
      | nil => simpa [here, held] using counted
      | cons text rest =>
          have alone : rest = [] := by simpa [held] using single
          simpa [here, held, alone] using counted
    · simpa [here] using counted

/-- Items with the keys they are put under, when so many ids have been generated before them. -/
def addressed (generated : Nat) : List BulkItem → List (StoredKey × BulkItem)
  | [] => []
  | item :: rest =>
    ((item.index, item.idAfter generated), item) :: addressed (item.generatedAfter generated) rest

/-- Those of the items that are put under a key. -/
def itemsUnder (key : StoredKey) (generated : Nat) (items : List BulkItem) : List BulkItem :=
  (addressed generated items).filterMap fun entry => if key = entry.1 then some entry.2 else none

theorem itemsUnder_cons (key : StoredKey) (generated : Nat) (item : BulkItem)
    (rest : List BulkItem) :
    itemsUnder key generated (item :: rest) =
      if key = (item.index, item.idAfter generated) then
        item :: itemsUnder key (item.generatedAfter generated) rest
      else itemsUnder key (item.generatedAfter generated) rest := by
  rw [itemsUnder, addressed, List.filterMap_cons]
  by_cases here : key = (item.index, item.idAfter generated) <;> simp [here, itemsUnder]

theorem mem_itemsUnder_of_brought (mem : item ∈ items) (brought : item.ref.key = some key.2)
    (index : item.index = key.1) : item ∈ itemsUnder key generated items := by
  induction items generalizing generated with
  | nil => contradiction
  | cons first rest ih =>
      rw [itemsUnder_cons]
      cases mem with
      | head =>
          have here : key = (item.index, item.idAfter generated) := by
            rw [BulkItem.idAfter, brought, Option.getD_some, index]
          rw [if_pos here]
          exact List.mem_cons_self
      | tail _ mem =>
          split
          · exact List.mem_cons_of_mem _ (ih mem)
          · exact ih mem

/-- What items with one key leave under it. -/
def settled (items : List BulkItem) (texts : List String) : List String :=
  items.foldl (fun texts item => item.settle texts) texts

theorem settled_eq_nil_iff : settled items held = [] ↔ items = [] ∧ held = [] := by
  induction items generalizing held with
  | nil => simp [settled]
  | cons item rest ih =>
      change settled rest (item.settle held) = [] ↔ _
      rw [ih]
      simp [item.settle_ne_nil held]

theorem putAll_append (sink : MemorySink) (before rest : List BulkItem) :
    sink.putAll (before ++ rest) =
      ((sink.putAll before).1 ++ ((sink.putAll before).2.putAll rest).1,
        ((sink.putAll before).2.putAll rest).2) := by
  induction before generalizing sink with
  | nil => rfl
  | cons item before ih => simp only [List.cons_append, putAll, ih]

theorem length_putAll (sink : MemorySink) (items : List BulkItem) :
    (sink.putAll items).1.length = items.length := by
  induction items generalizing sink with
  | nil => rfl
  | cons item rest ih => simp only [putAll, List.length_cons, ih]

theorem getElem?_putAll (sink : MemorySink) (before : List BulkItem) (item : BulkItem)
    (rest : List BulkItem) :
    (sink.putAll (before ++ item :: rest)).1[before.length]? =
      some ((sink.putAll before).2.put item).1 := by
  rw [putAll_append, List.getElem?_append_right (Nat.le_of_eq (length_putAll _ _)), length_putAll,
    Nat.sub_self, putAll, List.getElem?_cons_zero]

theorem generated_putAll (sink : MemorySink) (items : List BulkItem) :
    (sink.putAll items).2.generated = sink.generated + items.countP (·.ref.key.isNone) := by
  induction items generalizing sink with
  | nil => rfl
  | cons item rest ih =>
      simp only [putAll, ih, generated_put, BulkItem.generatedAfter, List.countP_cons]
      split <;> omega

theorem texts_putAll (sink : MemorySink) (items : List BulkItem) (key : StoredKey) :
    (sink.putAll items).2.texts key =
      settled (itemsUnder key sink.generated items) (sink.texts key) := by
  induction items generalizing sink with
  | nil => rfl
  | cons item rest ih =>
      rw [putAll, ih, generated_put, texts_put, itemsUnder_cons]
      change settled _ (if key = sink.keyFor item then _ else _) =
        settled (if key = sink.keyFor item then _ else _) _
      split <;> rfl

/-- The answers to some requests, and the sink afterwards. -/
def bulkAll (sink : MemorySink) : List Batch → List (List ItemStatus) × MemorySink
  | [] => ([], sink)
  | batch :: rest =>
    let (statuses, sink) := sink.bulk batch
    let (answers, sink) := bulkAll sink rest
    (statuses :: answers, sink)

theorem putAll_sized (sink : MemorySink) (sizes : List Nat) (items : List BulkItem) :
    putAll { sink with batchSizes := sizes } items =
      ((sink.putAll items).1, { (sink.putAll items).2 with batchSizes := sizes }) := by
  have once : ∀ (sink : MemorySink) (item : BulkItem), put { sink with batchSizes := sizes } item =
      ((sink.put item).1, { (sink.put item).2 with batchSizes := sizes }) := by
    intro sink item
    simp only [put_eq]
    change (if item.action = .create ∧ sink.contains (sink.keyFor item) = true then _ else _) = _
    split <;> rfl
  induction items generalizing sink with
  | nil => rfl
  | cons item rest ih => simp only [putAll, once, ih]

theorem bulk_eq (sink : MemorySink) (batch : Batch) :
    sink.bulk batch = ((sink.putAll batch.items).1,
      { (sink.putAll batch.items).2 with batchSizes := sink.batchSizes ++ [batch.size] }) :=
  sink.putAll_sized _ _

/-- Requests come to putting their items one after the other, whatever requests they are cut
into. -/
theorem bulkAll_eq (sink : MemorySink) (batches : List Batch) :
    (sink.bulkAll batches).1.flatten = (sink.putAll (batches.flatMap (·.items))).1 ∧
    (sink.bulkAll batches).2 = { (sink.putAll (batches.flatMap (·.items))).2 with
      batchSizes := sink.batchSizes ++ batches.map (·.size) } := by
  induction batches generalizing sink with
  | nil => simp [bulkAll, putAll]
  | cons batch rest ih =>
      simp only [bulkAll, bulk_eq, List.flatten_cons, ih, putAll_sized, List.flatMap_cons,
        putAll_append, List.map_cons, List.append_assoc, List.singleton_append, and_self]

end MemorySink

end BulkIngest
