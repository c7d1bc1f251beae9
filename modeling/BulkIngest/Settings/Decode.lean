import BulkIngest.Pipeline.Config
import BulkIngest.Settings.Setting
import BulkIngest.Sink.Backend
import BulkIngest.Source.Backend
import BulkIngest.Text.Quoted

/-!
What settings mean. A fault names the path of the setting, and the innermost place that was written
somewhere tells where. Names that mean nothing are passed over; of a choice with several names the
first one counts.
-/

namespace BulkIngest

/-- What a setting is called when something else was due. -/
inductive FoundSetting
  | scalar (s : Scalar)
  | sequence
  | map
  | bareName

def FoundSetting.describe : FoundSetting → String
  | .scalar (.text s) => s!"string {Text.quoted s}"
  | .scalar (.character c) => s!"string {Text.quoted c.toString}"
  | .scalar (.boolean b) => s!"bool {b}"
  | .scalar (.signed n) => s!"signed int \x60{n.toInt}\x60"
  | .scalar (.unsigned n) => s!"unsigned int \x60{n.toNat}\x60"
  | .scalar (.float x) => s!"float \x60{x.text}\x60"
  | .sequence => "sequence"
  | .map => "map"
  | .bareName => "unit variant"

inductive SettingProblem
  | invalidType (found : FoundSetting) (expected : String)
  | invalidValue (found : FoundSetting) (expected : String)
  | invalidLength (length : Nat) (expected : String)
  | missingField (name : String)
  | unknownVariant (name : String) (known : List String)
  /-- The text has no structure. -/
  | unreadable

namespace SettingProblem

/-- A choice of names. -/
def choice (names : List String) : String :=
  let ticked (name : String) : String := s!"\x60{name}\x60"
  match names with
  | [] => "there are no variants"
  | [name] => ticked name
  | [name, other] => s!"{ticked name} or {ticked other}"
  | names => "one of " ++ ", ".intercalate (names.map ticked)

def message : SettingProblem → String
  | .invalidType found expected => s!"invalid type: found {found.describe}, expected {expected}"
  | .invalidValue found expected => s!"invalid value {found.describe}, expected {expected}"
  | .invalidLength length expected => s!"invalid length {length}, expected {expected}"
  | .missingField name => s!"missing field \x60{name}\x60"
  | .unknownVariant name known =>
    s!"unknown variant: found \x60{name}\x60, expected \x60{choice known}\x60"
  | .unreadable => "unreadable"

end SettingProblem

structure SettingFault where
  problem : SettingProblem
  path : List String
  /-- Where the setting was written, if it was. -/
  origin : Option Origin

namespace SettingFault

def under (name : String) (fault : SettingFault) : SettingFault :=
  { fault with path := name :: fault.path }

def key (fault : SettingFault) : String := ".".intercalate fault.path

end SettingFault

abbrev Decoded := Except SettingFault

namespace Decoded

def within {α : Type} (name : String) (result : Decoded α) : Decoded α :=
  result.mapError (·.under name)

end Decoded

namespace Setting

def found : Setting → FoundSetting
  | .scalar _ s => .scalar s
  | .list .. => .sequence
  | .table .. => .map

def fault {α : Type} (v : Setting) (problem : SettingProblem) : Decoded α :=
  .error ⟨problem, [], some v.origin⟩

def wrongType {α : Type} (expected : String) (v : Setting) : Decoded α :=
  v.fault (.invalidType v.found expected)

def asText : Setting → Decoded String
  | .scalar _ (.text s) => .ok s
  | .scalar _ (.character c) => .ok c.toString
  | v => v.wrongType "a string"

def asBoolean : Setting → Decoded Bool
  | .scalar _ (.boolean b) => .ok b
  | v => v.wrongType "a boolean"

/-- A whole number from zero up to `max`. -/
def asNatural (max : Nat) (expected : String) (v : Setting) : Decoded Nat :=
  let bounded (n : Int) : Decoded Nat :=
    if 0 ≤ n ∧ n.toNat ≤ max then .ok n.toNat else v.fault (.invalidValue v.found expected)
  match v with
  | .scalar _ (.signed n) => bounded n.toInt
  | .scalar _ (.unsigned n) => bounded n.toNat
  | v => v.wrongType expected

def elements {α : Type} (decode : Setting → Decoded α) (i : Nat) : List Setting → Decoded (List α)
  | [] => .ok []
  | v :: rest => do
    let a ← (decode v).within (toString i)
    let more ← elements decode (i + 1) rest
    return a :: more

def asList {α : Type} (decode : Setting → Decoded α) : Setting → Decoded (List α)
  | .list _ vs => elements decode 0 vs
  | v => v.wrongType "a sequence"

def asDocument : Setting → Decoded Document
  | .table _ entries => .ok (jsonOfEntries entries)
  | v => v.wrongType "a map"

/-- How the content of a choice is read: there is none, or there has to be some. -/
inductive Content (α : Type)
  | bare (a : α)
  | holds (decode : Setting → Decoded α)

/-- One of the choices in `known`: a bare name, or a table from the name to its content. -/
def asChoice {α : Type} (kind : String) (known : List (String × Content α)) (v : Setting) :
    Decoded α :=
  let unknown (name : String) : SettingProblem := .unknownVariant name (known.map (·.1))
  match v with
  | .scalar _ (.text name) =>
    match known.lookup name with
    | some (.bare a) => .ok a
    | some (.holds _) => v.fault (.invalidType .bareName "newtype variant")
    | none => v.fault (unknown name)
  | .table _ ((name, content) :: _) =>
    match known.lookup name with
    | some (.bare _) => (content.wrongType "unit").within name
    | some (.holds decode) => (decode content).within name
    | none => (v.fault (unknown name)).within name
  | .table _ [] => v.fault (.invalidType .map "enum")
  | v => v.wrongType ("enum " ++ kind)

def asVariant {α : Type} (kind : String) (known : List (String × α)) : Setting → Decoded α :=
  asChoice kind (known.map fun (name, a) => (name, .bare a))

def format : DataFormat Setting SettingFault where
  text := asText
  natural := asNatural
  optional decode v := (decode v).map some
  list := asList
  variant := asVariant

/-- A record with the fields `names`, of which the first one has to be there if `needed`. `assign`
puts a value into a field of the draft. A list holds the fields in their own order. -/
def asRecord {δ : Type} (kind : String) (names : List String) (needed : Bool)
    (assign : δ → String → Setting → Decoded δ) (draft : δ) (v : Setting) : Decoded δ :=
  let fill (draft : δ) (name : String) (v : Setting) : Decoded δ :=
    if names.contains name then (assign draft name v).within name else .ok draft
  match v with
  | .table _ entries => do
    let draft ← entries.foldlM (fun draft (name, v) => fill draft name v) draft
    match names with
    | first :: _ =>
      if needed && (entries.lookup first).isNone then v.fault (.missingField first)
      else return draft
    | [] => return draft
  | .list _ vs => do
    let numbered := (names.zip vs).zipIdx
    let draft ← numbered.foldlM
      (fun draft ((name, v), i) => (assign draft name v).within (toString i)) draft
    if needed && vs.isEmpty then
      let s := if names.length = 1 then "" else "s"
      v.fault (.invalidLength 0 s!"struct {kind} with {names.length} element{s}")
    else return draft
  | v => v.wrongType ("struct " ++ kind)

end Setting

/-- Where documents come from, where they go, and what is done with them on the way. -/
structure Settings where
  source : SourceConfig
  sink : SinkConfig
  pipeline : PipelineConfig

namespace Settings

open Setting

def decodePipeline (v : Setting) : Decoded PipelineConfig :=
  (v.asRecord "PipelineConfig" PipelineConfig.fieldNames true (PipelineConfig.assign format)
    .empty).map (·.config)

def decodeFileSource : Setting → Decoded FileSourceConfig :=
  asRecord "FileSourceConfig" ["file_name", "format"] true
    (fun config name v =>
      match name with
      | "file_name" => v.asText.map fun s => { config with fileName := s }
      | "format" =>
        (v.asVariant "FileFormat" [("ndjson", .ndjson), ("json_array", .jsonArray)]).map fun f =>
          { config with format := f }
      | _ => .ok config)
    ⟨"", .ndjson⟩

def decodeMemorySource : Setting → Decoded (List Document) :=
  asRecord "InMemorySourceConfig" ["documents"] false (fun _ _ v => v.asList asDocument) []

def decodeFileSink : Setting → Decoded FileSinkConfig :=
  asRecord "FileSinkConfig" ["file_name", "append"] true
    (fun config name v =>
      match name with
      | "file_name" => v.asText.map fun s => { config with fileName := s }
      | "append" => v.asBoolean.map fun b => { config with append := b }
      | _ => .ok config)
    ⟨"", false⟩

def decodeHttpSink : Setting → Decoded HttpSinkConfig :=
  asRecord "ElasticsearchSinkConfig"
    ["url", "compress", "connect_timeout_secs", "request_timeout_secs"] true
    (fun config name v =>
      let seconds : Decoded UInt64 := (v.asNatural (UInt64.size - 1) "u64").map UInt64.ofNat
      match name with
      | "url" => v.asText.map fun s => { config with url := s }
      | "compress" => v.asBoolean.map fun b => { config with compress := b }
      | "connect_timeout_secs" => seconds.map fun n => { config with connectTimeoutSecs := n }
      | "request_timeout_secs" => seconds.map fun n => { config with requestTimeoutSecs := n }
      | _ => .ok config)
    ⟨"", false, 10, 30⟩

def decodeSource : Setting → Decoded SourceConfig :=
  asChoice "SourceConfig"
    [("File", .holds fun v => (decodeFileSource v).map .file),
      ("InMemory", .holds fun v => (decodeMemorySource v).map .memory)]

def decodeSink : Setting → Decoded SinkConfig :=
  asChoice "SinkConfig"
    [("Elasticsearch", .holds fun v => (decodeHttpSink v).map .http),
      ("File", .holds fun v => (decodeFileSink v).map .file), ("InMemory", .bare .memory)]

private def section? {α : Type} (entries : Entries Setting) (decode : Setting → Decoded α)
    (name : String) : Decoded (Option α) :=
  match entries.get? name with
  | some v => ((decode v).within name).map some
  | none => .ok none

private def needed {α : Type} (name : String) : Option α → Decoded α
  | some a => .ok a
  | none => .error ⟨.missingField name, [], none⟩

/-- All that is written is understood before anything is missed. -/
def decode (entries : Entries Setting) : Decoded Settings := do
  let pipeline ← section? entries decodePipeline "pipeline"
  let sink ← section? entries decodeSink "sink_config"
  let source ← section? entries decodeSource "source_config"
  return ⟨← needed "source_config" source, ← needed "sink_config" sink,
    ← needed "pipeline" pipeline⟩

end Settings

end BulkIngest
