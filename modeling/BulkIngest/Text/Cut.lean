import BulkIngest.Text.Quoted

/-!
Cutting a text off after a number of octets, which fails inside a character.
-/

namespace BulkIngest.Text

/-- A place inside the octets of a character, which start at `start`. -/
structure CutFault where
  index : Nat
  character : Char
  start : Nat
deriving DecidableEq

def CutFault.message (fault : CutFault) : String :=
  let last := fault.start + fault.character.utf8Size
  s!"end byte index {fault.index} is not a char boundary; it is inside " ++
    s!"'{quotedCharacter fault.character}' (bytes {fault.start}..{last} of string)"

/-- The characters before octet `index`, when `start` octets stand before the first of them. -/
def cutFrom (index start : Nat) : List Char → Except CutFault (List Char)
  | [] => .ok []
  | c :: rest =>
    if index ≤ start then .ok []
    else if index < start + c.utf8Size then .error ⟨index, c, start⟩
    else (cutFrom index (start + c.utf8Size) rest).map (c :: ·)

def cut (index : Nat) (characters : List Char) : Except CutFault (List Char) :=
  cutFrom index 0 characters

end BulkIngest.Text
