import BulkIngest.Settings.Decode
import BulkIngest.Settings.Environment
import BulkIngest.Toml.Document

/-!
Settings from the environment and, over these, from a file. Settings that are understood still have
to make sense together.
-/

namespace BulkIngest.Settings

/-- What keeps settings from being loaded: one that is not understood, a pipeline that would be
refused, or a text that is cut off inside a character, which nobody looks after. -/
inductive LoadFault
  | misread (fileName : Option String) (fault : SettingFault)
  | refused (e : PipelineError)
  | broken (fault : Text.CutFault)

namespace LoadFault

def message : LoadFault → String
  | .misread (some name) _ =>
    s!"💀 Could not make sense of '{name}' plus the SHOVEL_* environment. " ++
      "Check the section names and required fields."
  | .misread none _ =>
    "💀 Could not build a config from SHOVEL_* environment variables alone. " ++
      "No file was given, so this one's on the environment."
  | .refused _ => "💀 The config parsed, but the pipeline settings don't add up"
  | .broken fault => fault.message

/-- A file name without the steps that lead nowhere. -/
def shownName (name : String) : String :=
  let steps := (name.splitOn "/").filter fun step => step ≠ "" ∧ step ≠ "."
  if FilePath.isAbsolute name then name else "/".intercalate steps

/-- Where a setting was written: under which key, and in what. -/
def place (fileName : Option String) (fault : SettingFault) : String :=
  let key (text : String) : String :=
    if fault.path.isEmpty then "" else s!" for key {Text.quoted text}"
  match fault.origin with
  | none => ""
  | some .file =>
    key ("default." ++ fault.key) ++ " in " ++ shownName (fileName.getD "") ++ " TOML file"
  | some .environment =>
    let upper := String.ofList (fault.key.toList.map (·.toUpper))
    key upper ++ s!" in \x60{Environment.mark}\x60 environment variable(s)"

def causes : LoadFault → List String
  | .misread fileName fault => [fault.problem.message ++ place fileName fault]
  | .refused e => [e.message]
  | .broken _ => []

def trouble (fault : LoadFault) : Trouble := ⟨fault.message, fault.causes⟩

end LoadFault

/-- What a file of settings holds; one that is not there holds nothing. -/
def entriesOfFile (files : Files) (name : String) : Decoded (Entries Setting) :=
  match files.find name with
  | .ok (.file content) =>
    match Text.ofBytes? content >>= Toml.Document.settings? with
    | some entries => .ok entries
    | none => .error ⟨.unreadable, [], some .file⟩
  | _ => .ok []

/-- The settings of both layers. -/
def layers (below : Entries Setting) (files : Files) (fileName : Option String) :
    Decoded (Entries Setting) :=
  match fileName with
  | none => .ok below
  | some name => (entriesOfFile files name).map (Setting.overlayAll below)

def load (environment : Environment) (files : Files) (fileName : Option String) :
    Except LoadFault Settings :=
  match environment.settings with
  | .error fault => .error (.broken fault)
  | .ok below =>
    match layers below files fileName >>= decode with
    | .error fault => .error (.misread fileName fault)
    | .ok settings =>
      match settings.pipeline.validate with
      | .error e => .error (.refused e)
      | .ok () => .ok settings

end BulkIngest.Settings
