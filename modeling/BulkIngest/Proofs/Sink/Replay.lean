import BulkIngest.Proofs.Sink.StoredTexts

/-!
Requests that are made again. Items that bring their ids have the same keys each time, so what is
stored under a key is settled by the same items once more (`settled_settled`): if one of them
overwrites, by the last of those, as before; if all of them only create, there is something now and
it stays. The answers do differ, since every document is there the second time.
-/

namespace BulkIngest.MemorySink

variable {sink : MemorySink} {key : StoredKey} {generated generated' : Nat} {item : BulkItem}
  {items : List BulkItem} {held : List String}

/-- Where one item overwrites it does not matter what was there before. -/
theorem settled_of_overwritten {one two : List String} (mem : item ∈ items)
    (overwrites : item.action = .index) : settled items one = settled items two := by
  induction items generalizing one two with
  | nil => contradiction
  | cons first rest ih =>
      change settled rest (first.settle one) = settled rest (first.settle two)
      cases mem with
      | tail _ mem => exact ih mem
      | head => rw [item.settle_of_index overwrites, item.settle_of_index overwrites]

/-- Items that only create leave what is there. -/
theorem settled_of_created (creates : ∀ item ∈ items, item.action = .create) (there : held ≠ []) :
    settled items held = held := by
  induction items with
  | nil => rfl
  | cons first rest ih =>
      change settled rest (first.settle held) = held
      rw [first.settle_of_create (creates first List.mem_cons_self) there]
      exact ih fun item mem => creates item (List.mem_cons_of_mem _ mem)

theorem settled_settled (items : List BulkItem) (held : List String) :
    settled items (settled items held) = settled items held := by
  by_cases overwritten : ∃ item ∈ items, item.action = .index
  · obtain ⟨item, mem, overwrites⟩ := overwritten
    exact settled_of_overwritten mem overwrites
  · have creates : ∀ item ∈ items, item.action = .create := by
      intro item mem
      cases action : item.action with
      | create => rfl
      | index => exact absurd ⟨item, mem, action⟩ overwritten
    by_cases there : settled items held = []
    · obtain ⟨rfl, -⟩ := settled_eq_nil_iff.mp there
      rfl
    · exact settled_of_created creates there

/-- The keys of items that bring their ids do not depend on the ids generated before. -/
theorem itemsUnder_of_keyed (keyed : ∀ item ∈ items, item.ref.key ≠ none) :
    itemsUnder key generated items = itemsUnder key generated' items := by
  induction items generalizing generated generated' with
  | nil => rfl
  | cons first rest ih =>
      obtain ⟨id, brought⟩ := Option.ne_none_iff_exists'.mp (keyed first List.mem_cons_self)
      have same : first.idAfter generated = first.idAfter generated' := by
        rw [BulkItem.idAfter, BulkItem.idAfter, brought, Option.getD_some, Option.getD_some]
      rw [itemsUnder_cons, itemsUnder_cons, same,
        ih fun item mem => keyed item (List.mem_cons_of_mem _ mem)]

theorem texts_bulkAll (sink : MemorySink) (batches : List Batch) (key : StoredKey) :
    (sink.bulkAll batches).2.texts key =
      settled (itemsUnder key sink.generated (batches.flatMap (·.items))) (sink.texts key) := by
  rw [(sink.bulkAll_eq batches).2]
  exact sink.texts_putAll _ key

/-- The documents of the items are there, under the ids that the items bring. -/
def Present (sink : MemorySink) (items : List BulkItem) : Prop :=
  ∀ item ∈ items, ∃ id, item.ref.key = some id ∧ sink.texts (item.index, id) ≠ []

/-- The answer to an item whose document is there: it is replaced, or the item is refused. -/
def answerAgain (item : BulkItem) : ItemStatus :=
  match item.action with
  | .index => .accepted item.ref.key
  | .create => conflict (item.ref.key.getD "")

theorem Present.putAll {others : List BulkItem} (h : sink.Present others) (items : List BulkItem) :
    (sink.putAll items).2.Present others := by
  intro item mem
  obtain ⟨id, brought, there⟩ := h item mem
  refine ⟨id, brought, ?_⟩
  rw [texts_putAll, ne_eq, settled_eq_nil_iff]
  exact fun gone => there gone.2

theorem status_of_present
    (brought : ∃ id, item.ref.key = some id ∧ sink.texts (item.index, id) ≠ []) :
    (sink.put item).1 = answerAgain item := by
  obtain ⟨id, brought, there⟩ := brought
  have named : sink.keyFor item = (item.index, id) := by
    rw [keyFor, BulkItem.idAfter, brought, Option.getD_some]
  rw [status_put, named, answerAgain, brought]
  cases action : item.action with
  | index => rw [if_neg (by simp)]
  | create => rw [if_pos ⟨rfl, there⟩, Option.getD_some]

theorem statuses_of_present (h : sink.Present items) :
    (sink.putAll items).1 = items.map answerAgain := by
  induction items generalizing sink with
  | nil => rfl
  | cons first rest ih =>
      have later : (sink.put first).2.Present rest :=
        Present.putAll (fun item mem => h item (List.mem_cons_of_mem _ mem)) [first]
      simp only [MemorySink.putAll, List.map_cons, ih later,
        status_of_present (h first List.mem_cons_self)]

theorem answers_of_present {batches : List Batch} (h : sink.Present (batches.flatMap (·.items))) :
    (sink.bulkAll batches).1 = batches.map fun batch => batch.items.map answerAgain := by
  induction batches generalizing sink with
  | nil => rfl
  | cons batch rest ih =>
      simp only [List.flatMap_cons] at h
      have now : sink.Present batch.items := fun item mem => h item (List.mem_append_left _ mem)
      have later : (sink.bulk batch).2.Present (rest.flatMap (·.items)) := by
        rw [bulk_eq]
        exact Present.putAll (fun item mem => h item (List.mem_append_right _ mem)) batch.items
      simp only [bulkAll, List.map_cons, ih later]
      rw [bulk_eq, statuses_of_present now]

/-- Requests whose items bring their ids leave every index as it is when they are made a second
time, and then every item that overwrites is accepted and every item that creates is refused. -/
theorem replay_changes_nothing (sink : MemorySink) (batches : List Batch)
    (keyed : ∀ batch ∈ batches, ∀ item ∈ batch.items, item.ref.key ≠ none) :
    let first := sink.bulkAll batches
    let again := first.2.bulkAll batches
    (∀ index id, again.2.text? (index, id) = first.2.text? (index, id) ∧
      again.2.document? index id = first.2.document? index id) ∧
    (∀ index, again.2.count index = first.2.count index) ∧
    again.2.stored.Perm first.2.stored ∧
    again.1 = batches.map fun batch => batch.items.map answerAgain := by
  intro first again
  have brought : ∀ item ∈ batches.flatMap (·.items), item.ref.key ≠ none := by
    intro item mem
    obtain ⟨batch, there, mem⟩ := List.mem_flatMap.mp mem
    exact keyed batch there item mem
  have same : ∀ key, again.2.texts key = first.2.texts key := by
    intro key
    rw [texts_bulkAll, texts_bulkAll, itemsUnder_of_keyed brought, settled_settled]
  have texts : ∀ key, again.2.text? key = first.2.text? key := by
    intro key
    rw [text?_eq, text?_eq, same]
  have held := perm_of_texts same
  refine ⟨fun index id => ⟨texts _, ?_⟩, fun index => held.countP_eq _, held, ?_⟩
  · rw [document?, document?, texts]
  · apply answers_of_present
    intro item mem
    obtain ⟨id, named⟩ := Option.ne_none_iff_exists'.mp (brought item mem)
    refine ⟨id, named, ?_⟩
    rw [texts_bulkAll, ne_eq, settled_eq_nil_iff]
    exact fun gone => List.ne_nil_of_mem (mem_itemsUnder_of_brought mem named rfl) gone.1

def marked (index id : String) (action : BulkAction) (mark : String) : BulkItem :=
  .make ⟨0, some id⟩ action index none [("mark", .string mark)]

/-- Both documents of the first index are written twice, one of them in vain. -/
def overlapping : List Batch :=
  [.ofItems 1 [marked "x" "a" .index "1", marked "x" "b" .create "2"],
    .ofItems 2 [marked "x" "a" .create "3", marked "x" "b" .index "4", marked "y" "a" .create "5"]]

theorem replay_changes_nothing_overlapping :
    (∀ batch ∈ overlapping, ∀ item ∈ batch.items, item.ref.key ≠ none) ∧
    (empty.bulkAll overlapping).1 =
      [[.accepted (some "a"), .accepted (some "b")],
        [conflict "a", .accepted (some "b"), .accepted (some "a")]] ∧
    ((empty.bulkAll overlapping).2.bulkAll overlapping).1 =
      [[.accepted (some "a"), conflict "b"],
        [conflict "a", .accepted (some "b"), conflict "a"]] ∧
    ((empty.bulkAll overlapping).2.bulkAll overlapping).2.text? ("x", "b") =
      (empty.bulkAll overlapping).2.text? ("x", "b") ∧
    ((empty.bulkAll overlapping).2.bulkAll overlapping).2.count "x" = 2 := by
  have keyed : ∀ batch ∈ overlapping, ∀ item ∈ batch.items, item.ref.key ≠ none := by decide
  obtain ⟨texts, counts, -, answers⟩ := replay_changes_nothing empty overlapping keyed
  exact ⟨keyed, rfl, answers, (texts "x" "b").1, (counts "x").trans rfl⟩

end BulkIngest.MemorySink
