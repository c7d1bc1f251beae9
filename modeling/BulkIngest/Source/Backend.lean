import BulkIngest.Source.File
import BulkIngest.Source.Memory

/-!
The sources that settings can name.
-/

namespace BulkIngest

inductive SourceConfig
  | file (config : FileSourceConfig)
  | memory (documents : List Document)

inductive SourceBackend
  | file (source : FileSource)
  | memory (source : ListSource)

namespace SourceBackend

def «open» (files : Files) : SourceConfig → Except Trouble SourceBackend
  | .file config => (FileSource.open files config).map .file
  | .memory documents => .ok (.memory (.of documents))

/-- The same source when the files have changed before its first document was asked for. -/
def refresh (files : Files) : SourceBackend → SourceBackend
  | .file source => .file (source.refresh files)
  | .memory source => .memory source

end SourceBackend

end BulkIngest
