import BulkIngest.Http.Domain.Joiner
import BulkIngest.Http.Domain.Mapping
import BulkIngest.Http.Domain.Punycode
import BulkIngest.Text.Bytes

/-!
Host names in their one form for the wire. Labels between dots are written in ASCII; those that are
not get a mark in front that tells them apart from plain ones.
-/

namespace BulkIngest.Domain

/-- What stands in front of a label that is written in letters and digits for others. -/
def mark : List Char := ['x', 'n', '-', '-']

/-- Characters that no host name has. -/
def isForbidden (c : Char) : Bool :=
  c.toNat ≤ 0x20 || c.toNat = 0x7F || "#%/:<>?@[\\]^|".contains c

/-- The characters that a label is written for, if the label means anything. -/
def meant? (label : List Char) : Option (List Char) :=
  if mark.isPrefixOf label then
    let written := label.drop mark.length
    match Punycode.decode? written with
    | some characters =>
      if characters.all Punycode.isBasic || !isNormal characters then none else some characters
    | none => none
  else some label

def isLabel (characters : List Char) : Bool :=
  characters.all Punycode.isBasic ||
    (!characters.head?.any marks.contains && joinsWell [] characters)

def written (characters : List Char) : String :=
  if characters.all Punycode.isBasic then String.ofList characters
  else String.ofList (mark ++ Punycode.encode characters)

/-- The labels between the dots of a name. -/
def labels (name : List Char) : List (List Char) := name.splitOn '.'

/-- A name as it goes over the wire, or `none` if it is no name. -/
def ascii? (octets : Bytes) : Option String := do
  let name ← mapped? (← Text.ofBytes? octets).toList
  let labels ← (labels name).mapM meant?
  let directed := labels.any isDirected
  if labels.all isLabel && !labels.any (·.any isForbidden) &&
    (!directed || labels.all runsOneWay) then
    some (".".intercalate (labels.map written))
  else none

end BulkIngest.Domain
