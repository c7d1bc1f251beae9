import BulkIngest.Program.CommandLine

/-!
The program. It loads the files that the settings name, lets the run happen, and saves what changed.
-/

namespace BulkIngest.CommandLine

/-- The files with what is at a path at present. -/
def fetch (files : Files) (path : String) : IO Files := do
  match files.find path with
  | .error .notFound => pure ()
  | _ => return files
  try
    let content ← IO.FS.readBinFile path
    return files.put path (.file content.data.toList)
  catch e =>
    match e with
    | .noFileOrDirectory .. => return files
    | _ => return files.put path .directory

def fetchAll (files : Files) (paths : List String) : IO Files :=
  (paths.flatMap fun path => FilePath.beginnings path).foldlM fetch files

/-- Saves the content of a file if it is not what it was before. -/
def save (before after : Files) (path : String) : IO Unit := do
  let name := FilePath.canonical path
  match after.named? name with
  | some (.file content) =>
    if after.named? name ≠ before.named? name then IO.FS.writeBinFile path ⟨content.toArray⟩
  | _ => return ()

def environment : IO Environment := do
  let block ← IO.FS.readBinFile "/proc/self/environ"
  return Environment.ofBlock block.data.toList

end BulkIngest.CommandLine

open BulkIngest CommandLine in
def main (arguments : List String) : IO UInt32 := do
  let environment ← CommandLine.environment
  let settings ← fetchAll .empty (reachable environment .empty arguments)
  let paths := reachable environment settings arguments
  let before ← fetchAll settings paths
  let exit := execute .absent environment before arguments
  paths.forM (save before exit.files)
  exit.lines.forM IO.println
  return UInt32.ofNat exit.status
