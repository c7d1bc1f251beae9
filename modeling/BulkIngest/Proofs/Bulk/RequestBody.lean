import Mathlib
import BulkIngest.Bulk.Batch
import BulkIngest.Proofs.Source.Lines

/-!
The body of a request says exactly what its items are made of. Every item is two lines, its envelope
and its document, and reading the body as a file gives back both, so no text in an item can end its
line or be taken for the envelope of another item, and two bodies are the same only if all their
items are.
-/

namespace BulkIngest.RequestBody

open Json

/-- What an item is made of, apart from its position, which is not written. -/
@[ext]
structure Parts where
  key : Option String
  action : BulkAction
  index : String
  routing : Option String
  body : Document

namespace Parts

def item (position : Nat) (parts : Parts) : BulkItem :=
  .make ⟨position, parts.key⟩ parts.action parts.index parts.routing parts.body

/-- What stands in an envelope under the name of the action. -/
def metadata (parts : Parts) : Members := BulkItem.metadata ⟨0, parts.key⟩ parts.index parts.routing

def envelope (parts : Parts) : Document := [(parts.action.name, .object parts.metadata)]

end Parts

/-- Items of the given positions. -/
def items (placed : List (Nat × Parts)) : List BulkItem := placed.map fun p => p.2.item p.1

/-- The objects on the lines of a request, an envelope before every document. -/
def objects (placed : List (Nat × Parts)) : List Document :=
  placed.flatMap fun p => [p.2.envelope, p.2.body]

/-- The members tell the index, the id and the routing of an item, as far as there are any, and
nothing else. -/
structure Describes (members : Members) (parts : Parts) : Prop where
  index : members.get? "_index" = some (.string parts.index)
  id : members.get? "_id" = parts.key.map .string
  routing : members.get? "routing" = parts.routing.map .string
  nothingElse : ∀ member ∈ members, member.1 ∈ ["_id", "_index", "routing"]

theorem names_metadata (parts : Parts) :
    (parts.metadata.map (·.1)).Sublist ["_id", "_index", "routing"] := by
  obtain ⟨key, action, index, routing, body⟩ := parts
  cases key <;> cases routing
  · exact (by decide : ["_index"].Sublist ["_id", "_index", "routing"])
  · exact (by decide : ["_index", "routing"].Sublist ["_id", "_index", "routing"])
  · exact (by decide : ["_id", "_index"].Sublist ["_id", "_index", "routing"])
  · exact List.Sublist.refl _

theorem strings_metadata (parts : Parts) :
    ∀ member ∈ parts.metadata, ∃ s, member.2 = .string s := by
  obtain ⟨key, action, index, routing, body⟩ := parts
  cases key <;> cases routing <;> simp [Parts.metadata, BulkItem.metadata]

theorem describes_metadata (parts : Parts) : Describes parts.metadata parts := by
  have names : ∀ member ∈ parts.metadata, member.1 ∈ ["_id", "_index", "routing"] :=
    fun member mem =>
    (names_metadata parts).subset (List.mem_map_of_mem mem)
  obtain ⟨key, action, index, routing, body⟩ := parts
  refine ⟨?_, ?_, ?_, names⟩ <;> cases key <;> cases routing <;> rfl

theorem regular_envelope (parts : Parts) : FileSource.Regular parts.envelope := by
  have ascending : ["_id", "_index", "routing"].Pairwise (· < ·) := by decide
  have strings : ∀ member ∈ parts.metadata, member.2.Regular 125 := by
    intro member mem
    obtain ⟨s, same⟩ := strings_metadata parts member mem
    rw [same]
    exact .string s
  have inside : (Value.object parts.metadata).Regular 126 :=
    .object (List.pairwise_map.1 (ascending.sublist (names_metadata parts))) strings
  refine .object (List.pairwise_singleton ..) fun member mem => ?_
  rw [List.mem_singleton.1 mem]
  exact inside

/-- An item is written as its envelope and its document, each on a line. -/
theorem bytes_item (position : Nat) (parts : Parts) :
    Text.bytes (parts.item position).ndjson = FileSource.written [parts.envelope, parts.body] := by
  have newline : Text.bytes "\n" = [0x0A] := rfl
  rw [BulkItem.ndjson, Text.bytes_append, Text.bytes_append, Text.bytes_append, newline,
    List.append_assoc, FileSource.written, List.flatMap_cons, List.flatMap_singleton]
  rfl

theorem bytes_ndjson (placed : List (Nat × Parts)) :
    Text.bytes (ndjson (items placed)) = FileSource.written (objects placed) := by
  induction placed with
  | nil => rfl
  | cons p rest ih =>
      have split : ndjson (items (p :: rest)) = (p.2.item p.1).ndjson ++ ndjson (items rest) := rfl
      have lines : FileSource.written (objects (p :: rest)) =
          FileSource.written [p.2.envelope, p.2.body] ++ FileSource.written (objects rest) :=
        List.flatMap_append
      rw [split, Text.bytes_append, bytes_item, ih, lines]

/-- What is described by the same members is addressed alike. -/
theorem Describes.same {members : Members} {parts others : Parts} (h : Describes members parts)
    (h' : Describes members others) :
    parts.index = others.index ∧ parts.key = others.key ∧ parts.routing = others.routing := by
  have text : Function.Injective Value.string := fun _ _ => Value.string.inj
  refine ⟨text (Option.some.inj (h.index.symm.trans h'.index)), ?_, ?_⟩
  · exact Option.map_injective text (h.id.symm.trans h'.id)
  · exact Option.map_injective text (h.routing.symm.trans h'.routing)

theorem actionName_injective : Function.Injective BulkAction.name := by
  intro a b same
  cases a <;> cases b <;> first | rfl | exact absurd same (by decide)

theorem envelope_injective {parts others : Parts} (same : parts.envelope = others.envelope)
    (body : parts.body = others.body) : parts = others := by
  have member := (List.cons.inj same).1
  have action : parts.action = others.action := actionName_injective (congrArg Prod.fst member)
  have metadata : parts.metadata = others.metadata := Value.object.inj (congrArg Prod.snd member)
  obtain ⟨index, key, routing⟩ :=
    (metadata ▸ describes_metadata parts : Describes others.metadata parts).same
    (describes_metadata others)
  exact Parts.ext key action index routing body

theorem objects_injective {placed others : List (Nat × Parts)}
    (same : objects placed = objects others) :
    placed.map (·.2) = others.map (·.2) := by
  induction placed generalizing others with
  | nil =>
      cases others with
      | nil => rfl
      | cons q others => cases same
  | cons p rest ih =>
      cases others with
      | nil => cases same
      | cons q others =>
          obtain ⟨envelope, same⟩ := List.cons.inj same
          obtain ⟨body, same⟩ := List.cons.inj same
          rw [List.map_cons, List.map_cons, envelope_injective envelope body, ih same]

variable {placed : List (Nat × Parts)}

theorem regular_objects (regular : ∀ p ∈ placed, FileSource.Regular p.2.body) :
    ∀ d ∈ objects placed, FileSource.Regular d := by
  intro d mem
  obtain ⟨p, given, mem⟩ := List.mem_flatMap.1 mem
  obtain rfl | rfl : d = p.2.envelope ∨ d = p.2.body := by simpa using mem
  · exact regular_envelope p.2
  · exact regular p given

theorem length_objects (placed : List (Nat × Parts)) :
    (objects placed).length = 2 * (items placed).length := by
  induction placed with
  | nil => rfl
  | cons p rest ih =>
      have two : (objects (p :: rest)).length = (objects rest).length + 2 := rfl
      rw [two, ih]
      rfl

theorem ndjson_ends (filled : placed ≠ []) : ∃ front, ndjson (items placed) = front ++ "\n" := by
  induction placed with
  | nil => contradiction
  | cons p rest ih =>
      have split : ndjson (items (p :: rest)) = (p.2.item p.1).ndjson ++ ndjson (items rest) := rfl
      cases rest with
      | nil => exact ⟨_, split.trans String.append_empty⟩
      | cons q rest =>
          obtain ⟨front, ends⟩ := ih (List.cons_ne_nil q rest)
          exact ⟨(p.2.item p.1).ndjson ++ front, by rw [split, ends, String.append_assoc]⟩

/-- The body of a request is as long as its items count, ends with a newline, and is read back as
the envelope and the document of every item in turn and then nothing. Every envelope has one name,
which is the action, and describes its item. Other items have another body. -/
theorem body_read_back (filled : placed ≠ [])
    (regular : ∀ p ∈ placed, FileSource.Regular p.2.body) :
    (ndjson (items placed)).utf8ByteSize = ((items placed).map (·.encodedLength)).sum ∧
      (∃ front, ndjson (items placed) = front ++ "\n") ∧
      (∀ files fileName, files.read fileName = .ok (Text.bytes (ndjson (items placed))) →
        ∃ source, FileSource.open files ⟨fileName, .ndjson⟩ = .ok source ∧
          ∀ more, source.pulls (2 * (items placed).length + more) =
            (objects placed).map .document ++ List.replicate more .finished) ∧
      (∀ p ∈ placed, ∃ members,
        p.2.envelope = [(p.2.action.name, .object members)] ∧ Describes members p.2) ∧
      ∀ others : List (Nat × Parts), (∀ p ∈ others, FileSource.Regular p.2.body) →
        ndjson (items others) = ndjson (items placed) → others.map (·.2) = placed.map (·.2) := by
  refine ⟨?_, ndjson_ends filled, ?_, ?_, ?_⟩
  · rw [utf8ByteSize_ndjson, encodedLength, List.sum_eq_foldr, List.foldr_map]
  · intro files fileName read
    rw [bytes_ndjson] at read
    rw [← length_objects]
    exact FileSource.open_written (regular_objects regular) read
  · exact fun p _ => ⟨p.2.metadata, rfl, describes_metadata p.2⟩
  · intro others regular' same
    refine objects_injective (FileSource.written_injective (regular_objects regular')
      (regular_objects regular) ?_)
    rw [← bytes_ndjson, ← bytes_ndjson, same]

/-- Quotes, backslashes and ends of lines wherever they fit, and the envelope of another item as
text. -/
def hostileParts : Parts where
  key := some "a\"\\"
  action := .create
  index := "logs\r\n"
  routing := some "\x01"
  body :=
    [("line\n", .array [.object [], .string "\"\x7d\n\x7b\"index\":\x7b\x7d\x7d\n\x7b"]),
      ("n", .number (.whole ⟨-7, by decide, by decide⟩))]

def hostilePlaced : List (Nat × Parts) := [(4, hostileParts), (5, ⟨none, .index, "logs", none, []⟩)]

def hostileFiles : Files :=
  Files.empty.put "body" (.file (Text.bytes (ndjson (items hostilePlaced))))

theorem body_read_back_hostilePlaced :
    hostilePlaced ≠ [] ∧ (∀ p ∈ hostilePlaced, FileSource.Regular p.2.body) ∧
      ∃ source, FileSource.open hostileFiles ⟨"body", .ndjson⟩ = .ok source ∧
        source.pulls 5 = (objects hostilePlaced).map .document ++ [.finished] := by
  have filled : hostilePlaced ≠ [] := List.cons_ne_nil _ _
  have empty : (Value.object []).Regular 125 := .object .nil (by simp)
  have array (s : String) : (Value.array [.object [], .string s]).Regular 126 :=
    .array (by simp [empty, Value.Regular.string])
  have hostile : FileSource.Regular hostileParts.body :=
    .object (by decide) (by simp [hostileParts, array, Value.Regular.whole])
  have regular : ∀ p ∈ hostilePlaced, FileSource.Regular p.2.body := by
    simp only [hostilePlaced, List.forall_mem_cons, List.not_mem_nil, false_implies, implies_true,
      and_true]
    exact ⟨hostile, .object .nil (by simp)⟩
  have content (octets : Bytes) : (Files.empty.put "body" (.file octets)).read "body" =
    .ok octets := by cbv
  obtain ⟨-, -, read, -⟩ := body_read_back filled regular
  obtain ⟨source, opened, pulls⟩ := read hostileFiles "body" (content _)
  exact ⟨filled, regular, source, opened, pulls 1⟩

end BulkIngest.RequestBody
