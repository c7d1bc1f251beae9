import BulkIngest.Json.Shape
import BulkIngest.Source.Pull
import BulkIngest.Storage.Files
import BulkIngest.Text.Blank
import BulkIngest.Trouble

/-!
Documents from a file: one on each line, read as they are asked for, or all in one JSON array, which
is read when the file is opened. Whatever is not a JSON object is a failure that names its place.
-/

namespace BulkIngest

inductive FileFormat
  | ndjson
  | jsonArray
deriving DecidableEq

def FileFormat.describe : FileFormat → String
  | .ndjson => "Ndjson"
  | .jsonArray => "JsonArray"

structure FileSourceConfig where
  fileName : String
  format : FileFormat
deriving DecidableEq

namespace Text

/-- The lines of a text, each with the newline that ends it. -/
def lines : Bytes → List Bytes
  | [] => []
  | b :: rest =>
    if b = 0x0A then [b] :: lines rest
    else
      match lines rest with
      | [] => [[b]]
      | line :: more => (b :: line) :: more

/-- A line without what ends it: a newline, and a carriage return before that. -/
def bareLine (line : Bytes) : Bytes :=
  match line.reverse with
  | 0x0A :: 0x0D :: rest => rest.reverse
  | 0x0A :: rest => rest.reverse
  | _ => line

end Text

namespace FileSource

/-- What is left to read. -/
inductive Rest
  | lines (unread : List Bytes)
  /-- Every attempt to read fails. -/
  | unreadable (fault : StorageFault)
  | array (documents : List Document)

end FileSource

structure FileSource where
  config : FileSourceConfig
  rest : FileSource.Rest
  /-- The number of lines that were read. -/
  lineNumber : Nat
  /-- The number of octets that were read. -/
  offset : Nat
  total : Option Nat

namespace FileSource

open Json

/-- The elements of an array, if all of them are objects. -/
def objects (i : Nat) : List Value → Except Trouble (List Document)
  | [] => .ok []
  | .object d :: rest => (objects (i + 1) rest).map (d :: ·)
  | v :: _ => .error (.of s!"element {i} is a {v.typeName}, not an object")

def documentsOfArray (content : Bytes) : Except Trouble (List Document) :=
  match Read.whole (Read.listOf Read.depthLimit Read.anyValue) content with
  | .error fault => .error (.of (fault.message content))
  | .ok elements => objects 0 elements

def openLines (files : Files) (config : FileSourceConfig) : Except Trouble FileSource :=
  match files.find config.fileName with
  | .error fault =>
    .error ((Trouble.of fault.message).within
      (s!"💀 Could not open '{config.fileName}'. " ++
        "It might not exist, or it might not want to be read by us."))
  | .ok _ =>
    let rest : Rest :=
      match files.read config.fileName with
      | .ok content => .lines (Text.lines content)
      | .error fault => .unreadable fault
    .ok ⟨config, rest, 0, 0, none⟩

def openArray (files : Files) (config : FileSourceConfig) : Except Trouble FileSource :=
  match files.read config.fileName with
  | .error fault =>
    .error ((Trouble.of fault.message).within
      s!"💀 Could not read '{config.fileName}' into memory. The whole array has to fit, remember.")
  | .ok content =>
    match documentsOfArray content with
    | .error trouble =>
      .error (trouble.within
        s!"💀 '{config.fileName}' was supposed to be a JSON array of objects. It was not.")
    | .ok documents => .ok ⟨config, .array documents, 0, 0, some documents.length⟩

def «open» (files : Files) (config : FileSourceConfig) : Except Trouble FileSource :=
  match config.format with
  | .ndjson => openLines files config
  | .jsonArray => openArray files config

/-- Lines are not read before they are asked for, so they are those of the file as it is then. -/
def refresh (files : Files) (source : FileSource) : FileSource :=
  match source.config.format, openLines files source.config with
  | .ndjson, .ok current => current
  | _, _ => source

/-- What a line that is not blank stands for. -/
def pullOfLine (fileName : String) (number : Nat) (line : String) : Pull :=
  match Value.ofBytes (Text.bytes line) with
  | .error fault =>
    .failed s!"💀 Line {number} of '{fileName}' is not valid JSON: {fault.message (Text.bytes line)}"
  | .ok (.object d) => .document d
  | .ok v => .failed s!"💀 Line {number} of '{fileName}' is a {v.typeName}, not a JSON object"

/-- Reads on after line `number`, which ends at `offset`, past blank lines. -/
def nextLine (fileName : String) (number offset : Nat) :
    List Bytes → Pull × Nat × Nat × List Bytes
  | [] => (.finished, number, offset, [])
  | line :: unread =>
    let bare := Text.bareLine line
    let offset := offset + line.length
    match Text.Flaw.first? bare, Text.ofBytes? bare with
    | none, some text =>
      let text := Text.trimmed text
      if text.isEmpty then nextLine fileName (number + 1) offset unread
      else (pullOfLine fileName (number + 1) text, number + 1, offset, unread)
    | flaw, _ =>
      let reason := (flaw.map (·.message)).getD ""
      (.failed s!"💀 Reading '{fileName}' fell over after line {number}: {reason}", number,
        offset, unread)

def next (source : FileSource) : Pull × FileSource :=
  let fileName := source.config.fileName
  match source.rest with
  | .lines unread =>
    let (pull, lineNumber, offset, unread) :=
      nextLine fileName source.lineNumber source.offset unread
    (pull, { source with rest := .lines unread, lineNumber, offset })
  | .unreadable fault =>
    (.failed
      s!"💀 Reading '{fileName}' fell over after line {source.lineNumber}: {fault.message}", source)
  | .array [] => (.finished, source)
  | .array (d :: documents) => (.document d, { source with rest := .array documents })

def sizeHint (source : FileSource) : Option Nat := source.total

def describe (source : FileSource) : String :=
  let total :=
    match source.total with
    | some n => s!"Some({n})"
    | none => "None"
  "FileSource \x7b config: FileSourceConfig \x7b file_name: " ++
    Text.quoted source.config.fileName ++
    s!", format: {source.config.format.describe} \x7d, line_number: {source.lineNumber}, total: " ++
    total ++ " \x7d"

end FileSource

end BulkIngest
