import BulkIngest.Text.Printable

/-!
Text between double quotes for messages: quotes, backslashes and what cannot be shown are escaped.
-/

namespace BulkIngest.Text

/-- A character by its number. -/
def numbered (c : Char) : String :=
  "\\u\x7b" ++ String.ofList (Nat.toDigits 16 c.toNat) ++ "\x7d"

def quotedCharacter (c : Char) : String :=
  if c = '"' then "\\\""
  else if c = '\\' then "\\\\"
  else if c = '\n' then "\\n"
  else if c = '\r' then "\\r"
  else if c = '\t' then "\\t"
  else if c = '\x00' then "\\0"
  else if 0x20 ≤ c.toNat ∧ c.toNat < 0x7F then c.toString
  else if !isPrintable c then numbered c
  else c.toString

def quoted (s : String) : String :=
  "\"" ++ s.toList.foldl (fun text c => text ++ quotedCharacter c) "" ++ "\""

end BulkIngest.Text
