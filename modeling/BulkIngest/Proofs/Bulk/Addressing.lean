import Mathlib.Data.List.Sort
import BulkIngest.Pipeline.Addressing

/-!
Where the item of a document goes and what of the document it carries. The fields that say where a
document goes are never carried, whatever the settings allow; the field that holds the id is looked
up before fields are left out, but not among those. So the address does not depend on which fields
are allowed, nor what is carried on where it goes.
-/

namespace BulkIngest

namespace Entries

variable {α : Type} {entries others : Entries α} {name : String} {a : α}

theorem get?_filter (keeps : String → Bool) (entries : Entries α) (name : String) :
    get? (entries.filter fun entry => keeps entry.1) name =
      if keeps name = true then get? entries name else none := by
  induction entries with
  | nil => exact (ite_self _).symm
  | cons entry rest ih =>
      obtain ⟨n, v⟩ := entry
      simp only [get?] at ih ⊢
      by_cases same : name = n
      · subst same
        cases kept : keeps name with
        | true => simp only [List.filter_cons, kept, if_true, List.lookup_cons_self]
        | false =>
            rw [kept] at ih
            simpa only [List.filter_cons, kept, Bool.false_eq_true, if_false] using ih
      · have passed (entries : Entries α) : ((n, v) :: entries).lookup name =
          entries.lookup name := by
          rw [List.lookup_cons, beq_false_of_ne same]
        cases kept : keeps n with
        | true => simp only [List.filter_cons, kept, if_true, passed, ih]
        | false => simp only [List.filter_cons, kept, Bool.false_eq_true, if_false, passed, ih]

theorem mem_iff_get? (ascending : entries.Pairwise (·.1 < ·.1)) :
    (name, a) ∈ entries ↔ get? entries name = some a := by
  induction entries with
  | nil => simp [get?]
  | cons entry rest ih =>
      obtain ⟨n, v⟩ := entry
      obtain ⟨behind, later⟩ := List.pairwise_cons.mp ascending
      rw [List.mem_cons, ih later]
      by_cases same : name = n
      · subst same
        have once : get? rest name ≠ some a := fun again =>
          String.lt_irrefl name (behind (name, a) ((ih later).mpr again))
        rw [get?, get?, List.lookup_cons_self] at *
        simp only [once, or_false, Prod.mk.injEq, true_and, Option.some.injEq, eq_comm]
      · rw [get?, get?, List.lookup_cons, beq_false_of_ne same]
        simp only [Prod.mk.injEq, same, false_and, false_or]

/-- Values by ascending names are known by what is found under each name. -/
theorem eq_of_get? (ascending : entries.Pairwise (·.1 < ·.1))
    (ascending' : others.Pairwise (·.1 < ·.1))
    (same : ∀ name, get? others name = get? entries name) : others = entries := by
  have irrefl : Std.Irrefl fun entry other : String × α => entry.1 < other.1 :=
    ⟨fun entry => String.lt_irrefl entry.1⟩
  have asymm : Std.Antisymm fun entry other : String × α => entry.1 < other.1 :=
    ⟨fun entry other before after => (String.lt_asymm before after).elim⟩
  refine ascending'.eq_of_mem_iff ascending fun entry => ?_
  rw [mem_iff_get? ascending', mem_iff_get? ascending, same]

end Entries

/-- Text stands for itself, any other value for its JSON. -/
inductive Json.Value.TextForm : Json.Value → String → Prop
  | string (s : String) : TextForm (.string s) s
  | json {v : Json.Value} (noText : ∀ s, v ≠ .string s) : TextForm v v.text

theorem Json.Value.textForm_iff {v : Json.Value} {text : String} :
    v.TextForm text ↔ v.keyText = text := by
  constructor
  · intro form
    cases form with
    | string s => rfl
    | json noText =>
        cases v with
        | string s => exact absurd rfl (noText s)
        | null | boolean b | number n | array elements | object members => rfl
  · rintro rfl
    cases v with
    | string s => exact .string s
    | null | boolean b | number n | array elements | object members =>
        exact .json fun _ never => by contradiction

namespace Document

variable {d d' : Document} {name text : String}

/-- The document has a text to say for a field: the field is there and not null. -/
def Gives (d : Document) (name text : String) : Prop :=
  ∃ v, Entries.get? d name = some v ∧ v ≠ .null ∧ v.TextForm text

theorem keyText?_eq_some_iff : keyText? d name = some text ↔ Gives d name text := by
  simp only [Gives, keyText?, Json.Value.textForm_iff]
  cases found : Entries.get? d name with
  | none => simp
  | some v => cases v <;> simp [Json.Value.isNull]

theorem keyText?_eq_none_iff : keyText? d name = none ↔ ∀ text, ¬ Gives d name text := by
  simp only [Option.eq_none_iff_forall_ne_some, ne_eq, keyText?_eq_some_iff]

theorem get?_content (d : Document) (name : String) :
    Entries.get? (content d) name = if name ∈ reservedNames then none else Entries.get? d name := by
  rw [content, Entries.get?_filter fun name => !reservedNames.contains name]
  by_cases reserved : name ∈ reservedNames <;> simp [reserved]

theorem gives_content : Gives (content d) name text ↔ name ∉ reservedNames ∧ Gives d name text := by
  simp only [Gives, get?_content]
  by_cases reserved : name ∈ reservedNames <;> simp [reserved]

/-- What is left of a document is known by the fields that are left. -/
theorem content_eq (ascending : d.Pairwise (·.1 < ·.1)) (ascending' : d'.Pairwise (·.1 < ·.1))
    (same : ∀ name, name ∉ reservedNames → Entries.get? d' name = Entries.get? d name) :
    content d' = content d := by
  refine Entries.eq_of_get? (ascending.sublist List.filter_sublist)
    (ascending'.sublist List.filter_sublist) fun name => ?_
  rw [get?_content, get?_content]
  split
  · rfl
  · rename_i free
    exact same name free

end Document

namespace PipelineConfig

/-- The fields of a document that are carried: those that are allowed, but none that says where it
goes. -/
structure Carries (config : PipelineConfig) (d body : Document) : Prop where
  order : body.Sublist d
  fields : ∀ name v, Entries.get? body name = some v ↔
    Entries.get? d name = some v ∧ name ∉ Document.reservedNames ∧
      ∀ allowed, config.allowedFields = some allowed → name ∈ allowed

/-- Where a document goes: what it says itself comes before what the settings say. -/
structure Addresses (config : PipelineConfig) (d : Document) (key : Option String) (index : String)
    (routing : Option String) : Prop where
  key : ∀ id, key = some id ↔ Document.Gives d "_id" id ∨ (∀ own, ¬ Document.Gives d "_id" own) ∧
    ∃ field, config.keyField = some field ∧ field ∉ Document.reservedNames ∧
      Document.Gives d field id
  index : Document.Gives d "_index" index ∨
    (∀ own, ¬ Document.Gives d "_index" own) ∧ index = config.indexTarget
  routing : ∀ route, routing = some route ↔ Document.Gives d "_routing" route

theorem carries_content (config : PipelineConfig) (d : Document) :
    config.Carries d (config.projection.apply (Document.content d)) where
  order := List.filter_sublist.trans List.filter_sublist
  fields name v := by
    rw [Projection.apply, Entries.get?_filter, Document.get?_content]
    by_cases reserved : name ∈ Document.reservedNames
    · simp [reserved]
    · cases allowance : config.allowedFields with
      | none => simp [Projection.keeps, projection, allowance, reserved]
      | some allowed =>
          by_cases listed : name ∈ allowed <;>
            simp [Projection.keeps, projection, allowance, reserved, listed]

theorem addresses_self (config : PipelineConfig) (d : Document) :
    config.Addresses d (config.keyOf d) (config.indexOf d) (Document.keyText? d "_routing") where
  key key := by
    rw [keyOf]
    cases own : Document.keyText? d "_id" with
    | some id =>
        have given := Document.keyText?_eq_some_iff.mp own
        rw [← Document.keyText?_eq_some_iff, own]
        exact ⟨.inl, fun either => either.resolve_right fun other => other.1 id given⟩
    | none =>
        have absent := Document.keyText?_eq_none_iff.mp own
        simp only [Option.bind_eq_some_iff, Document.keyText?_eq_some_iff,
          Document.gives_content, absent, false_or, not_false_eq_true, implies_true, true_and]
  index := by
    rw [indexOf]
    cases own : Document.keyText? d "_index" with
    | some index => exact .inl (Document.keyText?_eq_some_iff.mp own)
    | none => exact .inr ⟨Document.keyText?_eq_none_iff.mp own, rfl⟩
  routing _ := Document.keyText?_eq_some_iff

variable {config other : PipelineConfig} {d d' : Document}

/-- What is carried does not depend on where it goes, nor on what the document says about that. -/
theorem source_prepare (allowance : other.allowedFields = config.allowedFields)
    (left : Document.content d' = Document.content d) (position elsewhere : Nat) :
    (other.prepare elsewhere d').source = (config.prepare position d).source := by
  simp only [prepare, BulkItem.make, projection, allowance, left]

/-- The item of a document carries the fields that are allowed, and goes where the document says or
else the settings do: whichever fields are allowed, and whatever is carried. -/
theorem item_addressed (config : PipelineConfig) (position : Nat) (d : Document) :
    (∃ key index routing body,
      config.prepare position d = .make ⟨position, key⟩ config.action index routing body ∧
        config.Carries d body ∧ config.Addresses d key index routing) ∧
    (∀ (other : PipelineConfig) (elsewhere : Nat),
      other.keyField = config.keyField → other.indexTarget = config.indexTarget →
        (other.prepare elsewhere d).ref.key = (config.prepare position d).ref.key ∧
        (other.prepare elsewhere d).index = (config.prepare position d).index ∧
        (other.prepare elsewhere d).routing = (config.prepare position d).routing) ∧
    (∀ (other : PipelineConfig) (elsewhere : Nat) (d' : Document),
      other.allowedFields = config.allowedFields →
      d.Pairwise (·.1 < ·.1) → d'.Pairwise (·.1 < ·.1) →
      (∀ name, name ∉ Document.reservedNames → Entries.get? d' name = Entries.get? d name) →
        (other.prepare elsewhere d').source = (config.prepare position d).source) := by
  refine ⟨⟨config.keyOf d, config.indexOf d, Document.keyText? d "_routing",
    config.projection.apply (Document.content d), rfl, carries_content config d,
    addresses_self config d⟩,
    fun other elsewhere keyField target => ?_,
    fun other elsewhere d' allowance ascending ascending' same => ?_⟩
  · simp only [prepare, BulkItem.make, keyOf, indexOf, keyField, target, and_self]
  · exact source_prepare allowance (Document.content_eq ascending ascending' same) position
      elsewhere

/-- A document whose id is null, with a field that holds its id and is not allowed. -/
def labelledHat : Document :=
  [("_id", .null), ("_index", .string "attic"), ("sku", .ofNat 7), ("title", .string "hat")]

def routedHat : Document :=
  [("_routing", .string "left"), ("sku", .ofNat 7), ("title", .string "hat")]

def hatConfig : PipelineConfig where
  indexTarget := "shop"
  keyField := some "sku"
  allowedFields := some ["_index", "title"]

theorem item_addressed_labelledHat :
    hatConfig.prepare 3 labelledHat = .make ⟨3, some "7"⟩ .index "attic" none
      [("title", .string "hat")] ∧
      (∃ body, hatConfig.Carries labelledHat body ∧
        hatConfig.Addresses labelledHat (some "7") "attic" none) ∧
      ({ hatConfig with allowedFields := none }.prepare 0 labelledHat).ref.key = some "7" ∧
      ({ hatConfig with keyField := none, indexTarget := "shed" }.prepare 0 routedHat).source =
        (hatConfig.prepare 3 labelledHat).source := by
  obtain ⟨⟨key, index, routing, body, item, carries, addresses⟩, address, source⟩ :=
    item_addressed hatConfig 3 labelledHat
  have made : hatConfig.prepare 3 labelledHat =
      .make ⟨3, some "7"⟩ .index "attic" none [("title", .string "hat")] := by rfl
  have same := item.symm.trans made
  simp only [BulkItem.make, BulkItem.mk.injEq, DocumentRef.mk.injEq] at same
  obtain ⟨⟨-, rfl⟩, -, rfl, rfl, -⟩ := same
  refine ⟨made, ⟨body, carries, addresses⟩, ?_, ?_⟩
  · exact (address { hatConfig with allowedFields := none } 0 rfl rfl).1.trans
      (congrArg (·.ref.key) made)
  · refine source _ 0 routedHat rfl (by decide) (by decide) fun name free => ?_
    obtain ⟨noId, noIndex, noRouting⟩ : name ≠ "_id" ∧ name ≠ "_index" ∧ name ≠ "_routing" := by
      simpa [Document.reservedNames] using free
    simp only [labelledHat, routedHat, Entries.get?, List.lookup_cons, beq_false_of_ne noId,
      beq_false_of_ne noIndex, beq_false_of_ne noRouting]

end PipelineConfig

end BulkIngest
