import BulkIngest.Storage.Files

/-!
A file to which whole payloads are added. A write that stops on its way leaves the file torn; the
next write, or the end, first cuts it back to the last payload that was written whole, so nothing
ever follows half a payload. Whatever is done to the file may stop at each place where it has to
wait, because the system refuses to go on or because nobody waits for it any longer.
-/

namespace BulkIngest

/-- How far the mending of a torn file gets when it stops on its way. -/
inductive MendStop
  /-- The file is not cut back yet. -/
  | uncut
  /-- The file is cut back; `sought` says whether the next octet already goes behind the cut. -/
  | cut (sought : Bool)
deriving DecidableEq

/-- How far a write gets. It has to wait while a torn file is mended, while the payload goes out,
and until all of it has landed. -/
inductive WriteFate
  | complete
  | stoppedMending (stop : MendStop)
  | stoppedWriting (written : Nat)
deriving DecidableEq

/-- How far the end gets: it mends a torn file and waits until everything has landed. -/
inductive CloseFate
  | complete
  | stoppedMending (stop : MendStop)
  | stoppedFlushing
deriving DecidableEq

/-- An open file: what is in it, and what of that counts. -/
structure Shelf where
  node : FileNode
  /-- Whether every write goes to the end, wherever the last one stopped. -/
  appending : Bool
  cursor : Nat
  /-- The octets of whole payloads and of what was there before. -/
  committed : Nat
  torn : Bool
deriving DecidableEq

namespace Shelf

def content (shelf : Shelf) : Bytes :=
  match shelf.node with
  | .file content => content
  | .directory | .fullDevice | .nullDevice => []

/-- An open file whose content stays, or is dropped. -/
def «open» (node : FileNode) (appending : Bool) : Shelf :=
  let node :=
    match node with
    | .file content => .file (if appending then content else [])
    | device => device
  let shelf : Shelf := ⟨node, appending, 0, 0, false⟩
  { shelf with committed := shelf.content.length }

/-- The first `n` octets; what is missing is zero. -/
def resized (n : Nat) (content : Bytes) : Bytes :=
  content.take n ++ List.replicate (n - content.length) 0

/-- `content` with `octets` from place `start` on. -/
def patched (content : Bytes) (start : Nat) (octets : Bytes) : Bytes :=
  resized start content ++ octets ++ content.drop (start + octets.length)

/-- Where the next octet goes. -/
def writeStart (shelf : Shelf) : Nat :=
  if shelf.appending then shelf.content.length else shelf.cursor

def cut (shelf : Shelf) : Shelf :=
  match shelf.node with
  | .file content => { shelf with node := .file (resized shelf.committed content) }
  | _ => shelf

/-- A torn file is cut back. -/
def mend (shelf : Shelf) : Shelf :=
  if shelf.torn then { shelf.cut with cursor := shelf.committed, torn := false } else shelf

def mendUpTo (shelf : Shelf) (stop : MendStop) : Shelf :=
  if shelf.torn then
    match stop with
    | .uncut => shelf
    | .cut false => shelf.cut
    | .cut true => { shelf.cut with cursor := shelf.committed }
  else shelf

def put (shelf : Shelf) (octets : Bytes) : Shelf :=
  match shelf.node with
  | .file content =>
    if octets.isEmpty then shelf
    else
      let start := shelf.writeStart
      { shelf with node := .file (patched content start octets), cursor := start + octets.length }
  | _ => shelf

def write (shelf : Shelf) (payload : Bytes) : WriteFate → Shelf
  | .complete =>
    let shelf := shelf.mend.put payload
    { shelf with committed := shelf.committed + payload.length }
  | .stoppedMending stop => shelf.mendUpTo stop
  | .stoppedWriting written => { shelf.mend.put (payload.take written) with torn := true }

def close (shelf : Shelf) : CloseFate → Shelf
  | .complete | .stoppedFlushing => shelf.mend
  | .stoppedMending stop => shelf.mendUpTo stop

/-- A device cannot be cut back. -/
def mendFault? (shelf : Shelf) : Option StorageFault :=
  match shelf.node with
  | .file _ => none
  | _ => if shelf.torn then some .invalidArgument else none

/-- How a write goes when no file may grow past `limit`. -/
def outcomeOf (limit : Option Nat) (shelf : Shelf) (payload : Bytes) :
    WriteFate × Option StorageFault :=
  match shelf.mendFault? with
  | some fault => (.stoppedMending .uncut, some fault)
  | none =>
    match shelf.node, limit with
    | .fullDevice, _ =>
      if payload.isEmpty then (.complete, none) else (.stoppedWriting 0, some .noSpace)
    | .file _, some limit =>
      let start := shelf.mend.writeStart
      if payload.isEmpty || start + payload.length ≤ limit then (.complete, none)
      else (.stoppedWriting (limit - start), some .fileTooLarge)
    | _, _ => (.complete, none)

end Shelf

end BulkIngest
