import BulkIngest.Json.Value
import BulkIngest.Number.Shortest

/-!
Compact JSON text. A string escapes quotes, backslashes and control characters and nothing else.
-/

namespace BulkIngest.Json

def hexDigit (n : Nat) : Char := Nat.digitChar (n % 16)

/-- The written form of one character inside a string. -/
def escaped (c : Char) : String :=
  if c = '"' then "\\\""
  else if c = '\\' then "\\\\"
  else if c = '\n' then "\\n"
  else if c = '\r' then "\\r"
  else if c = '\t' then "\\t"
  else if c = '\x08' then "\\b"
  else if c = '\x0c' then "\\f"
  else if c.toNat < 0x20 then
    "\\u00" ++ String.ofList [hexDigit (c.toNat / 16), hexDigit c.toNat]
  else c.toString

def quoted (s : String) : String :=
  "\"" ++ s.toList.foldl (fun text c => text ++ escaped c) "" ++ "\""

def Number.text : Number → String
  | .whole n => toString n.value
  | .float x => x.text

namespace Value

mutual

def text : Value → String
  | .null => "null"
  | .boolean true => "true"
  | .boolean false => "false"
  | .number n => n.text
  | .string s => quoted s
  | .array [] => "[]"
  | .array (v :: rest) => "[" ++ text v ++ elementsText rest ++ "]"
  | .object [] => "\x7b\x7d"
  | .object ((name, v) :: rest) =>
    "\x7b" ++ quoted name ++ ":" ++ text v ++ membersText rest ++ "\x7d"

/-- The elements after the first one. -/
def elementsText : List Value → String
  | [] => ""
  | v :: rest => "," ++ text v ++ elementsText rest

/-- The members after the first one. -/
def membersText : List (String × Value) → String
  | [] => ""
  | (name, v) :: rest => "," ++ quoted name ++ ":" ++ text v ++ membersText rest

end

end Value

end BulkIngest.Json
