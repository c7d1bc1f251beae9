import BulkIngest.Failure
import BulkIngest.Bulk.Projection
import BulkIngest.Json.Decode
import BulkIngest.Retry.Policy
import BulkIngest.Text.Blank

/-!
What a run of the pipeline is to do, its defaults, and which settings are refused.
-/

namespace BulkIngest

structure PipelineConfig where
  /-- The destination of documents that do not name their own. -/
  indexTarget : String
  action : BulkAction := .index
  /-- The field whose value becomes the id. -/
  keyField : Option String := none
  allowedFields : Option (List String) := none
  maxBatchCount : UInt64 := 500
  maxBatchBytes : UInt64 := 104857600
  maxInFlight : UInt64 := 1
  maxRetries : UInt32 := 3
  baseDelayMs : UInt64 := 2000
  maxDelayMs : UInt64 := 600000
  submitTimeoutMs : UInt64 := 30000
deriving DecidableEq

namespace PipelineConfig

/-- The first complaint about the settings, if there is one. -/
def complaint? (config : PipelineConfig) : Option String :=
  if (Text.trimmed config.indexTarget).isEmpty then some "index_target must name an index"
  else if config.maxBatchCount = 0 then some "max_batch_count must be at least 1"
  else if config.maxBatchBytes = 0 then some "max_batch_bytes must be at least 1"
  else if config.maxInFlight = 0 then some "max_in_flight must be at least 1"
  else if config.maxDelayMs < config.baseDelayMs then
    some "base_delay_ms can't be larger than max_delay_ms"
  else none

theorem complaint?_eq_none_iff (config : PipelineConfig) :
    config.complaint? = none ↔
      (Text.trimmed config.indexTarget).isEmpty = false ∧ config.maxBatchCount ≠ 0 ∧
        config.maxBatchBytes ≠ 0 ∧ config.maxInFlight ≠ 0 ∧
        config.baseDelayMs ≤ config.maxDelayMs := by
  simp only [complaint?]
  repeat' split
  all_goals simp_all

def validate (config : PipelineConfig) : Except PipelineError Unit :=
  match config.complaint? with
  | some complaint => .error (.invalidConfig complaint)
  | none => .ok ()

def retryPolicy (config : PipelineConfig) : RetryPolicy :=
  ⟨config.maxRetries, .ofMilliseconds config.baseDelayMs, .ofMilliseconds config.maxDelayMs⟩

def submitTimeout (config : PipelineConfig) : Duration := .ofMilliseconds config.submitTimeoutMs

def projection (config : PipelineConfig) : Projection := ⟨config.allowedFields⟩

def fieldNames : List String :=
  ["index_target", "action", "key_field", "allowed_fields", "max_batch_count", "max_batch_bytes",
    "max_in_flight", "max_retries", "base_delay_ms", "max_delay_ms", "submit_timeout_ms"]

def actions : List (String × BulkAction) := [("index", .index), ("create", .create)]

/-- Settings that have been read so far, and whether the destination is among them. -/
structure Draft where
  targeted : Bool
  config : PipelineConfig

def Draft.empty : Draft := ⟨false, { indexTarget := "" }⟩

/-- Puts a value into the field of the given name. -/
def assign {V E : Type} (format : DataFormat V E) (draft : Draft) (name : String) (v : V) :
    Except E Draft :=
  let config := draft.config
  let size (kind : String) := (format.natural (UInt64.size - 1) kind v).map UInt64.ofNat
  let set (config : PipelineConfig) : Draft := { draft with config }
  match name with
  | "index_target" => (format.text v).map fun s => ⟨true, { config with indexTarget := s }⟩
  | "action" => (format.variant "BulkAction" actions v).map fun a =>
      set { config with action := a }
  | "key_field" => (format.optional format.text v).map fun k => set { config with keyField := k }
  | "allowed_fields" => (format.optional (format.list format.text) v).map fun fields =>
      set { config with allowedFields := fields }
  | "max_batch_count" => (size "usize").map fun n => set { config with maxBatchCount := n }
  | "max_batch_bytes" => (size "usize").map fun n => set { config with maxBatchBytes := n }
  | "max_in_flight" => (size "usize").map fun n => set { config with maxInFlight := n }
  | "max_retries" => (format.natural (UInt32.size - 1) "u32" v).map fun n =>
      set { config with maxRetries := UInt32.ofNat n }
  | "base_delay_ms" => (size "u64").map fun n => set { config with baseDelayMs := n }
  | "max_delay_ms" => (size "u64").map fun n => set { config with maxDelayMs := n }
  | "submit_timeout_ms" => (size "u64").map fun n => set { config with submitTimeoutMs := n }
  | _ => .ok draft

open Json

def decodeAction : Value → Except Problem BulkAction := Value.asVariant actions

def decode (v : Value) : Except Problem PipelineConfig := do
  let draft ← v.asRecord "struct PipelineConfig" fieldNames (assign format) .empty
  if draft.targeted then .ok draft.config
  else
    match v with
    | .array _ => .error (.invalidLength 0 "struct PipelineConfig with 11 elements")
    | _ => .error (.missingField "index_target")

end PipelineConfig

end BulkIngest
