import BulkIngest.Pipeline.SummaryTable
import BulkIngest.Program.Run
import BulkIngest.Settings.Load
import BulkIngest.Text.Quoted

/-!
The command line: the first argument names a file of settings. What a run came to is a table, or a
chain of causes with a hint if it looks as if nobody listens at the other end.
-/

namespace BulkIngest.CommandLine

/-- What a program leaves behind. -/
structure Exit where
  status : Nat
  lines : List String
  files : Files

/-- Characters that a terminal would obey are shown by their numbers. -/
def disarmed (c : Char) : String :=
  if c = '\x07' then "\\x07"
  else if c = '\x08' then "\\x08"
  else if c = '\x0c' then "\\x0c"
  else if c = '\x1b' then "\\x1b"
  else if c = '\x7f' then "\\x7f"
  else if 0x80 ≤ c.toNat ∧ c.toNat < 0xA0 then Text.numbered c
  else c.toString

def logged (place text : String) : List String :=
  s!"ERROR {place}: {String.join (text.toList.map disarmed)}".splitOn "\n"

/-- What is said while a run goes on. -/
def complaints (summary : RunSummary) : List String :=
  match summary.error with
  | some (.source text) =>
    logged "shovel::pipeline"
      s!"💀 source failed after {summary.attempted} documents: {text}"
  | some (.submissionPanicked text) =>
    logged "shovel::pipeline" s!"💀 a submission task panicked: {text}"
  | _ => []

def connectionSigns : List String :=
  ["error sending request", "connection refused", "Connection refused", "tcp connect error",
    "dns error"]

def contains (text part : String) : Bool := 1 < (text.splitOn part).length

def hint : String :=
  "🔧 hint: the cluster doesn't seem reachable. Is Elasticsearch/OpenSearch running, and is the " ++
  "url in [sink_config.Elasticsearch] right? With Docker, \x60docker ps\x60 tells you who's up " ++
  "and \x60docker compose up -d\x60 wakes the rest."

/-- What is said about trouble. -/
def report (trouble : Trouble) : List String :=
  let log := logged "shovel_cli"
  let isConnectionTrouble :=
    trouble.causes.any fun cause => connectionSigns.any (contains cause)
  log s!"💀 error: {trouble.message}" ++
    (trouble.causes.map fun cause => log s!"⚠️  cause: {cause}").flatten ++
    if isConnectionTrouble then log hint else []

def failed (trouble : Trouble) (said : List String) (files : Files) : Exit :=
  ⟨1, said ++ report trouble, files⟩

def exitOf (ending : Ending) : Exit :=
  let said :=
    match ending with
    | .ran summary _ _ => complaints summary
    | .notStarted .. | .unfinished _ => []
  match ending.result with
  | .ok summary => ⟨summary.terminalState.exitStatus, said ++ summary.table, ending.files⟩
  | .error trouble => failed trouble said ending.files

def settingsPath (arguments : List String) : String := arguments.head?.getD "shovel.toml"

/-- The file of settings, if it is there. -/
def settingsFile? (files : Files) (path : String) : Except Trouble (Option String) :=
  match files.find path with
  | .ok _ => .ok (some path)
  | .error .notFound => .ok none
  | .error fault =>
    .error ((Trouble.of fault.message).within
      s!"💀 Couldn't even check whether '{path}' exists. Permissions on a parent directory, maybe?")

/-- What keeps a run from being set up. -/
inductive Halt
  | trouble (trouble : Trouble)
  /-- Nobody looks after it, so nothing is said about it where the results go. -/
  | breakdown

def Halt.exit (files : Files) : Halt → Exit
  | .trouble t => failed t [] files
  | .breakdown => ⟨101, [], files⟩

def haltOf (fault : Settings.LoadFault) : Halt :=
  match fault with
  | .broken _ => .breakdown
  | _ =>
    .trouble (fault.trouble.within
      "💀 Couldn't load the config. Check the file for typos and missing sections.")

def loadSettings (environment : Environment) (files : Files) (arguments : List String) :
    Except Halt Settings := do
  let file ← (settingsFile? files (settingsPath arguments)).mapError Halt.trouble
  (Settings.load environment files file).mapError haltOf

/-- The files that the program may look at or write, as far as the settings are there. -/
def reachable (environment : Environment) (files : Files) (arguments : List String) : List String :=
  let named :=
    match loadSettings environment files arguments with
    | .error _ => []
    | .ok settings =>
      let source :=
        match settings.source with
        | .file config => [config.fileName]
        | .memory _ => []
      match settings.sink with
      | .file config => config.fileName :: source
      | .http _ | .memory => source
  settingsPath arguments :: named

def execute (network : Network) (environment : Environment) (files : Files)
    (arguments : List String) : Exit :=
  match loadSettings environment files arguments with
  | .error halt => halt.exit files
  | .ok settings => exitOf (settings.run network files false)

end BulkIngest.CommandLine
