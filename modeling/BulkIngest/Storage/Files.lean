import BulkIngest.Storage.Fault
import BulkIngest.Text.Bytes

/-!
The files that a program can see, by path from its working directory, and two devices. A path is
followed step by step, and every step starts from a directory that is there. Steps that lead nowhere
are dropped from names, so every file has one name here.
-/

namespace BulkIngest

/-- What a path may lead to. -/
inductive FileNode
  | file (content : Bytes)
  | directory
  /-- Takes no data. -/
  | fullDevice
  /-- Takes all data and keeps none. -/
  | nullDevice
deriving DecidableEq

namespace FilePath

def isAbsolute (path : String) : Bool := path.startsWith "/"

/-- One more step of a path whose steps so far are `taken`, the last one first. -/
def walk (absolute : Bool) (taken : List String) (step : String) : List String :=
  if step = "" ∨ step = "." then taken
  else if step = ".." then
    match taken with
    | [] => if absolute then [] else [".."]
    | ".." :: _ => ".." :: taken
    | _ :: before => before
  else step :: taken

/-- What stands between the slashes of a path. -/
def parts (path : String) : List String := (path.splitOn "/").filter (· ≠ "")

/-- The steps of a path; steps upward are left only in front. -/
def steps (path : String) : List String :=
  ((parts path).foldl (walk (isAbsolute path)) []).reverse

/-- Whether the path insists on a directory. -/
def namesDirectory (path : String) : Bool := path.endsWith "/"

/-- The name of what the given steps lead to. -/
def name (absolute : Bool) (steps : List String) : String :=
  (if absolute then "/" else "") ++ "/".intercalate steps

/-- The one name of the file that a path leads to. -/
def canonical (path : String) : String := name (isAbsolute path) (steps path)

/-- The names of the directories on the way to the last step, from the outside to the inside. -/
def parents (path : String) : List String :=
  (List.range (steps path).length).map fun n => name (isAbsolute path) ((steps path).take n)

/-- The path itself, and before it everything that ends at one of its slashes. -/
def beginnings (path : String) : List String :=
  let pieces := path.splitOn "/"
  (List.range pieces.length).map fun n => "/".intercalate (pieces.take (n + 1))

/-- What no path may be, wherever it leads. A path ends with a zero octet of its own. -/
def fault? (path : String) : Option StorageFault :=
  if path = "" then some .notFound
  else if path.contains '\x00' then some .zeroInName
  else if 4096 ≤ path.utf8ByteSize then some .nameTooLong
  else none

/-- Whether a step has more octets than a name may have. -/
def isTooLong (step : String) : Bool := 255 < step.utf8ByteSize

end FilePath

structure Files where
  nodes : List (String × FileNode)
deriving DecidableEq

namespace Files

def devices : List (String × FileNode) :=
  [("", .directory), ("/", .directory), ("/dev", .directory), ("/dev/full", .fullDevice),
    ("/dev/null", .nullDevice)]

def empty : Files := ⟨devices⟩

/-- What has the given name. There are only directories upward. -/
def named? (files : Files) (name : String) : Option FileNode :=
  if (name.splitOn "/").all (· = "..") then some .directory else files.nodes.lookup name

/-- Puts `node` where `path` leads. -/
def put (files : Files) (path : String) (node : FileNode) : Files :=
  let name := FilePath.canonical path
  ⟨(name, node) :: files.nodes.filter (·.1 ≠ name)⟩

/-- Puts `node` where `path` leads, with all directories on the way. -/
def make (files : Files) (path : String) (node : FileNode) : Files :=
  ((FilePath.parents path).foldl (fun files name => files.put name .directory) files).put path node

/-- One more step from where the steps `taken` lead, the last one first. -/
def enter (files : Files) (absolute : Bool) (taken : List String) (step : String) :
    Except StorageFault (List String) :=
  match files.named? (FilePath.name absolute taken.reverse) with
  | some .directory =>
    let taken := FilePath.walk absolute taken step
    if FilePath.isTooLong step then .error .nameTooLong
    else if (files.named? (FilePath.name absolute taken.reverse)).isSome then .ok taken
    else .error .notFound
  | some _ => .error .notADirectory
  | none => .error .notFound

/-- What the given steps lead to. -/
def follow (files : Files) (absolute : Bool) (steps : List String) :
    Except StorageFault FileNode := do
  let taken ← steps.foldlM (files.enter absolute) []
  match files.named? (FilePath.name absolute taken.reverse) with
  | some node => .ok node
  | none => .error .notFound

/-- What a path leads to. -/
def find (files : Files) (path : String) : Except StorageFault FileNode :=
  match FilePath.fault? path with
  | some fault => .error fault
  | none =>
    files.follow (FilePath.isAbsolute path) (FilePath.parts path) >>= fun node =>
      if FilePath.namesDirectory path ∧ node ≠ .directory then .error .notADirectory else .ok node

/-- The content of a file. -/
def read (files : Files) (path : String) : Except StorageFault Bytes :=
  files.find path >>= fun
    | .file content => .ok content
    | .directory => .error .isADirectory
    | .fullDevice | .nullDevice => .ok []

/-- What the last step of a path leads to when a file may be made there. -/
def findOrMakeIn (files : Files) (path last : String) (before : List String) :
    Except StorageFault FileNode := do
  let absolute := FilePath.isAbsolute path
  match ← files.follow absolute before with
  | .directory =>
    if last = "." ∨ last = ".." ∨ FilePath.namesDirectory path then .error .isADirectory
    else
      match files.follow absolute (before ++ [last]) with
      | .ok .directory => .error .isADirectory
      | .error .notFound => .ok (.file [])
      | result => result
  | _ => .error .notADirectory

/-- What a path leads to when a file may be made there. -/
def findOrMake (files : Files) (path : String) : Except StorageFault FileNode :=
  match FilePath.fault? path, (FilePath.parts path).reverse with
  | some fault, _ => .error fault
  | none, [] => .error .isADirectory
  | none, last :: before => files.findOrMakeIn path last before.reverse

end Files

end BulkIngest
