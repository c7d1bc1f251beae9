import BulkIngest.Proofs.Bulk.RequestBody
import BulkIngest.Proofs.Sink.GeneratedIds

/-!
An index in memory against the log of what was accepted. An accepted item writes its document under
its key, and the log of those writes is all there is to know about the index: what is stored under a
key is the last document written there, and an index holds as many documents as ids were written in
it. `Reflects` says so, one item preserves it whatever its verdict, and so does every list of items.
-/

namespace BulkIngest.MemorySink

open Json RequestBody

/-- What an item writes that was answered so. -/
def written? (parts : Parts) : ItemStatus → Option (StoredKey × Document)
  | .accepted (some id) => some ((parts.index, id), parts.body)
  | _ => none

/-- The documents that were accepted, in order, with the keys they were written under. -/
def writes (answered : List (Parts × ItemStatus)) : List (StoredKey × Document) :=
  answered.filterMap fun answer => written? answer.1 answer.2

/-- The documents that were written under a key. -/
def bodiesUnder (key : StoredKey) (log : List (StoredKey × Document)) : List Document :=
  (log.filter (·.1 = key)).map (·.2)

/-- The ids that were written in an index, each as often as it was. -/
def idsIn (index : String) (log : List (StoredKey × Document)) : List String :=
  (log.filter (·.1.1 = index)).map (·.1.2)

variable {sink : MemorySink} {key : StoredKey} {index id : String} {item : BulkItem}
    {body : Document}
  {log : List (StoredKey × Document)} {answered : List (Parts × ItemStatus)}
  {placed : List (Nat × Parts)}

theorem writes_cons (parts : Parts) (status : ItemStatus) (answered : List (Parts × ItemStatus)) :
    writes ((parts, status) :: answered) = (written? parts status).toList ++ writes answered := by
  rw [writes, List.filterMap_cons]
  cases written? parts status <;> rfl

theorem bodiesUnder_append_singleton (log : List (StoredKey × Document)) (key : StoredKey)
    (body : Document) (other : StoredKey) :
    bodiesUnder other (log ++ [(key, body)]) =
      if other = key then bodiesUnder other log ++ [body] else bodiesUnder other log := by
  rw [bodiesUnder, List.filter_append, List.map_append]
  split
  · rename_i here
    simp [bodiesUnder, here]
  · rename_i elsewhere
    simp [bodiesUnder, Ne.symm elsewhere]

theorem idsIn_append_singleton (log : List (StoredKey × Document)) (key : StoredKey)
    (body : Document) (index : String) :
    idsIn index (log ++ [(key, body)]) =
      if key.1 = index then idsIn index log ++ [key.2] else idsIn index log := by
  rw [idsIn, List.filter_append, List.map_append]
  split
  · rename_i here
    simp [idsIn, here]
  · rename_i elsewhere
    simp [idsIn, elsewhere]

theorem mem_idsIn_iff : id ∈ idsIn index log ↔ bodiesUnder (index, id) log ≠ [] := by
  simp only [idsIn, bodiesUnder, List.mem_map, List.mem_filter, ne_eq, List.map_eq_nil_iff,
    List.filter_eq_nil_iff, decide_eq_true_eq, not_forall, Decidable.not_not, Prod.ext_iff,
    exists_prop, and_assoc]

theorem mem_bodiesUnder_writes (mem : body ∈ bodiesUnder key (writes answered)) :
    ∃ answer ∈ answered, answer.1.body = body := by
  obtain ⟨write, logged, rfl⟩ := List.mem_map.mp mem
  obtain ⟨answer, given, wrote⟩ := List.mem_filterMap.mp (List.mem_of_mem_filter logged)
  refine ⟨answer, given, ?_⟩
  simp only [written?] at wrote
  split at wrote
  · rw [← Option.some.inj wrote]
  · contradiction

/-- The sink holds what was last written under every key, and of every index as many documents as
ids were written. -/
structure Reflects (sink : MemorySink) (log : List (StoredKey × Document)) : Prop where
  texts : ∀ key, sink.texts key =
    ((bodiesUnder key log).getLast?.map fun body => (Value.object body).text).toList
  count : ∀ index, sink.count index = (idsIn index log).toFinset.card

theorem reflects_empty : empty.Reflects [] where
  texts _ := rfl
  count _ := rfl

namespace Reflects

theorem single (h : sink.Reflects log) (key : StoredKey) : (sink.texts key).length ≤ 1 := by
  rw [h.texts]
  exact Option.length_toList_le

theorem texts_ne_nil_iff (h : sink.Reflects log) :
    sink.texts key ≠ [] ↔ bodiesUnder key log ≠ [] := by
  rw [h.texts, ne_eq, Option.toList_eq_nil_iff, Option.map_eq_none_iff, List.getLast?_eq_none_iff]

theorem put_of_refused (h : sink.Reflects log) (create : item.action = .create)
    (taken : sink.texts (sink.keyFor item) ≠ []) : (sink.put item).2.Reflects log where
  texts key := by
    rw [texts_put, ← h.texts]
    split
    · rename_i here
      rw [here, BulkItem.settle_of_create create taken]
    · rfl
  count index := by
    rw [count_put (h.single _), if_neg fun free => taken free.2, Nat.add_zero, h.count]

theorem put_of_accepted (h : sink.Reflects log) (source : item.source = (Value.object body).text)
    (accepted : ¬(item.action = .create ∧ sink.texts (sink.keyFor item) ≠ [])) :
    (sink.put item).2.Reflects (log ++ [(sink.keyFor item, body)]) where
  texts key := by
    rw [texts_put, bodiesUnder_append_singleton]
    split
    · rename_i here
      rw [here, BulkItem.settle, if_neg accepted, List.getLast?_concat, source]
      rfl
    · exact h.texts key
  count index := by
    rw [count_put (h.single _), idsIn_append_singleton, h.count]
    change _ = (if item.index = index then _ else _ : List String).toFinset.card
    by_cases here : item.index = index
    · subst here
      have known : (sink.keyFor item).2 ∈ idsIn item.index log ↔
        sink.texts (sink.keyFor item) ≠ [] :=
        mem_idsIn_iff.trans h.texts_ne_nil_iff.symm
      rw [if_pos rfl, List.toFinset_append, List.toFinset_cons, List.toFinset_nil, insert_empty_eq,
        Finset.union_singleton]
      by_cases taken : sink.texts (sink.keyFor item) ≠ []
      · have again : (sink.keyFor item).2 ∈ (idsIn item.index log).toFinset :=
          List.mem_toFinset.mpr (known.mpr taken)
        rw [if_neg fun free => taken free.2, Nat.add_zero, Finset.insert_eq_of_mem again]
      · have anew : (sink.keyFor item).2 ∉ (idsIn item.index log).toFinset :=
          mt List.mem_toFinset.mp (mt known.mp taken)
        rw [if_pos ⟨rfl, Decidable.not_not.mp taken⟩, Finset.card_insert_of_notMem anew]
    · rw [if_neg fun both => here both.1, if_neg here, Nat.add_zero]

/-- An item that is refused changes nothing, and one that is accepted is written. -/
theorem put (h : sink.Reflects log) (position : Nat) (parts : Parts) :
    (sink.put (parts.item position)).2.Reflects
      (log ++ (written? parts (sink.put (parts.item position)).1).toList) := by
  rw [status_put]
  split
  · rename_i refused
    have nothing : (written? parts (conflict (sink.keyFor (parts.item position)).2)).toList = [] :=
      rfl
    rw [nothing, List.append_nil]
    exact h.put_of_refused refused.1 refused.2
  · rename_i accepted
    exact h.put_of_accepted rfl accepted

theorem putAll (h : sink.Reflects log) (placed : List (Nat × Parts)) :
    (sink.putAll (items placed)).2.Reflects
      (log ++ writes ((placed.map (·.2)).zip (sink.putAll (items placed)).1)) := by
  induction placed generalizing sink log with
  | nil =>
      change sink.Reflects (log ++ [])
      rwa [List.append_nil]
  | cons p rest ih =>
      have later := ih (h.put p.1 p.2)
      rw [List.append_assoc, ← writes_cons] at later
      exact later

theorem document?_eq (h : sink.Reflects log)
    (regular : ∀ body ∈ bodiesUnder (index, id) log, FileSource.Regular body) :
    sink.document? index id = (bodiesUnder (index, id) log).getLast?.map .object := by
  have text : sink.text? (index, id) =
      (bodiesUnder (index, id) log).getLast?.map fun body => (Value.object body).text := by
    rw [text?_eq, h.texts, Option.head?_toList]
  rw [document?, text]
  cases last : (bodiesUnder (index, id) log).getLast? with
  | none => rfl
  | some body =>
      have read := Value.ofBytes_text (regular body (List.mem_of_getLast? last))
      simp only [Option.map_some, read]
      rfl

end Reflects

/-- Before any of the items, what is stored is what those in front of it wrote. -/
theorem reflects_take (front rest : List BulkItem) (given : items placed = front ++ rest) :
    (empty.putAll front).2.Reflects
      (writes (((placed.map (·.2)).zip (empty.putAll (items placed)).1).take front.length)) := by
  have shorter : items (placed.take front.length) = front := by
    rw [items, List.map_take]
    change (items placed).take front.length = front
    rw [given, List.take_left]
  have reflected := reflects_empty.putAll (placed.take front.length)
  rw [shorter, List.nil_append] at reflected
  have answers : (empty.putAll (items placed)).1.take front.length = (empty.putAll front).1 := by
    rw [given, putAll_append, ← length_putAll empty front, List.take_left]
  rwa [List.zip, List.take_zipWith, ← List.map_take, answers]

/-- An item is refused if and only if it creates what is there when its turn comes, which means that
an item before it wrote under the same key; any other item is accepted under its id, a generated one
if it brings none. A document that is asked for is the last one written under its key, and an index
counts the ids written in it. How the items are cut into requests changes neither the answers nor
what is stored. -/
theorem bulkAll_reflects_writes (regular : ∀ p ∈ placed, FileSource.Regular p.2.body)
    (batches : List Batch) (given : batches.flatMap (·.items) = items placed) :
    let statuses := (empty.bulkAll batches).1.flatten
    let sink := (empty.bulkAll batches).2
    let answered := (placed.map (·.2)).zip statuses
    statuses.length = placed.length ∧
      (∀ earlier batch later before item rest,
        batches = earlier ++ batch :: later → batch.items = before ++ item :: rest →
          let front := earlier.flatMap (·.items) ++ before
          let moment := (empty.bulkAll earlier).2.amid batch.size before
          let id := item.ref.key.getD s!"auto-{front.countP (·.ref.key.isNone) + 1}"
          (moment.contains (item.index, id) = true ↔
              bodiesUnder (item.index, id) (writes (answered.take front.length)) ≠ []) ∧
            statuses[front.length]? = some (
              if item.action = .create ∧ moment.contains (item.index, id) = true then conflict id
              else .accepted (some id))) ∧
      (∀ index id, sink.document? index id =
        (bodiesUnder (index, id) (writes answered)).getLast?.map .object) ∧
      (∀ index, sink.count index = (idsIn index (writes answered)).toFinset.card) ∧
      ∀ others : List Batch, others.flatMap (·.items) = items placed →
        (empty.bulkAll others).1.flatten = statuses ∧
        (empty.bulkAll others).2.stored = sink.stored := by
  intro statuses sink answered
  have cut := empty.bulkAll_eq batches
  rw [given] at cut
  have reflects : sink.Reflects (writes answered) := by
    have whole := reflects_empty.putAll placed
    simp only [sink, answered, statuses, cut]
    exact ⟨whole.texts, whole.count⟩
  refine ⟨?_, ?_, ?_, reflects.count, ?_⟩
  · simp only [statuses, cut, length_putAll, items, List.length_map]
  · intro earlier batch later before item rest cuts splits front moment id
    have whole : items placed = front ++ item :: (rest ++ later.flatMap (·.items)) := by
      rw [← given, cuts, List.flatMap_append, List.flatMap_cons, splits]
      simp only [front, List.append_assoc, List.cons_append]
    have texts : ∀ key, moment.texts key = (empty.putAll front).2.texts key := by
      intro key
      simp only [moment, amid_bulkAll]
      rfl
    have named : (empty.putAll front).2.keyFor item = (item.index, id) := by
      rw [keyFor, generated_putAll, BulkItem.idAfter]
      exact congrArg (fun count => (item.index, item.ref.key.getD s!"auto-{count + 1}"))
        (Nat.zero_add _)
    refine ⟨?_, ?_⟩
    · rw [contains_iff, texts, (reflects_take front _ whole).texts_ne_nil_iff]
      simp only [answered, statuses, cut]
    · simp only [statuses, cut, whole, getElem?_putAll, status_put, named, contains_iff, texts]
  · intro index id
    apply reflects.document?_eq
    intro body mem
    obtain ⟨⟨parts, status⟩, answer, rfl⟩ := mem_bodiesUnder_writes mem
    obtain ⟨p, put, rfl⟩ := List.mem_map.mp (List.of_mem_zip answer).1
    exact regular p put
  · intro others same
    have recut := empty.bulkAll_eq others
    rw [same] at recut
    simp only [statuses, sink, cut, recut, and_self]

def numbered (key : Option String) (action : BulkAction) (index : String) (n : Whole) : Parts :=
  ⟨key, action, index, none, [("n", .number (.whole n))]⟩

theorem regular_numbered (key : Option String) (action : BulkAction) (index : String) (n : Whole) :
    FileSource.Regular (numbered key action index n).body :=
  .object (List.pairwise_singleton ..) (by simp [numbered, Value.Regular.whole])

/-- Two indices. In the first one an id is brought before it is generated, and another after it
was. -/
def mixed : List (Nat × Parts) :=
  [(0, numbered (some "auto-2") .index "x" ⟨1, by decide, by decide⟩),
    (1, numbered none .index "x" ⟨2, by decide, by decide⟩),
    (2, numbered none .create "x" ⟨3, by decide, by decide⟩),
    (3, numbered none .create "y" ⟨-4, by decide, by decide⟩),
    (4, numbered (some "auto-1") .index "x" ⟨5, by decide, by decide⟩)]

def twoRequests : List Batch :=
  [.ofItems 1 (items (mixed.take 2)), .ofItems 2 (items (mixed.drop 2))]

theorem bulkAll_reflects_writes_mixed :
    (∀ p ∈ mixed, FileSource.Regular p.2.body) ∧
      twoRequests.flatMap (·.items) = items mixed ∧
      (empty.bulkAll twoRequests).1.flatten =
        [.accepted (some "auto-2"), .accepted (some "auto-1"), conflict "auto-2",
          .accepted (some "auto-3"), .accepted (some "auto-1")] ∧
      (empty.bulkAll twoRequests).2.document? "x" "auto-1" =
        some (.object [("n", .number (.whole ⟨5, by decide, by decide⟩))]) ∧
      (empty.bulkAll twoRequests).2.document? "y" "auto-1" = none ∧
      (empty.bulkAll twoRequests).2.count "x" = 2 ∧
      (empty.bulkAll [.ofItems 1 (items mixed)]).2.stored =
        (empty.bulkAll twoRequests).2.stored := by
  have regular : ∀ p ∈ mixed, FileSource.Regular p.2.body := by
    simp [mixed, regular_numbered]
  obtain ⟨-, -, documents, counts, others⟩ := bulkAll_reflects_writes regular twoRequests rfl
  exact ⟨regular, rfl, by rfl, documents "x" "auto-1", documents "y" "auto-1", counts "x",
    (others [.ofItems 1 (items mixed)] rfl).2⟩

end BulkIngest.MemorySink
