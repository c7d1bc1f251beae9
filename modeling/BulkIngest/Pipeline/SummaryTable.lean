import BulkIngest.Pipeline.Summary
import BulkIngest.Text.Table

/-!
The summary of a run as a table for people.
-/

namespace BulkIngest.RunSummary

open Text (Cell Row)

def rows (summary : RunSummary) : List Row :=
  let count (label : String) (n : Nat) : Row := [.left label, .right (toString n)]
  let error : List Row :=
    match summary.error with
    | some e => [[.left "⚠️ error", .left e.message]]
    | none => []
  [count "✅ succeeded" summary.succeeded, count "💀 failed" summary.failed,
    count "📭 never sent" summary.unsent, count "📊 attempted" summary.attempted,
    count "📦 batches" summary.batches, count "🔄 retries" summary.retries,
    [.left "🏁 outcome", .left summary.terminalState.name]] ++ error

def table (summary : RunSummary) : List String :=
  Text.Table.framed [.left "", .left "documents"] summary.rows

end BulkIngest.RunSummary
