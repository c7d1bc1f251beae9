import BulkIngest.Text.Escape
import BulkIngest.Text.Ranges

/-!
Tables over code points, written down as text. An entry is a run of code points in hexadecimal
digits, such as `41-5A`, of which `/2` takes every other one; behind an equals sign stands what the
first of them stands for, and those behind it stand for what is as far behind that.
-/

namespace BulkIngest.Text

/-- The code points `low`, `low + step`, … up to `high`, and what the first of them stands for. -/
structure Run where
  low : Nat
  high : Nat
  step : Nat
  target : List Nat
deriving DecidableEq

namespace Run

def number (digits : String) : Nat :=
  digits.toList.foldl (fun n c => n * 16 + (Escape.hexDigit? c).getD 0) 0

def ofEntry (entry : String) : Run :=
  let target (text : String) : List Nat := (text.splitOn "+").map number
  let range (text : String) (step : Nat) (target : List Nat) : Run :=
    match text.splitOn "-" with
    | [low, high] => ⟨number low, number high, step, target⟩
    | _ => ⟨number text, number text, step, target⟩
  match entry.splitOn "=" with
  | [codes, meant] =>
    match codes.splitOn "/" with
    | [codes, step] => range codes (number step) (target meant)
    | _ => range codes 1 (target meant)
  | _ => range entry 1 []

def covers (run : Run) (code : Nat) : Bool :=
  run.low ≤ code && code ≤ run.high && (code - run.low) % run.step = 0

end Run

abbrev Runs := Array Run

namespace Runs

def ofText (text : String) : Runs :=
  let entries := ((text.splitOn "\n").flatMap (·.splitOn " ")).filter (· ≠ "")
  (entries.map Run.ofEntry).toArray

/-- What a character stands for, if it is in the table. -/
def target? (runs : Runs) (c : Char) : Option (List Nat) :=
  (runs.find? (·.covers c.toNat)).map fun run => run.target.map (· + (c.toNat - run.low))

/-- The number that the whole run of a character has. -/
def label? (runs : Runs) (c : Char) : Option Nat :=
  (runs.find? (·.covers c.toNat)).bind (·.target.head?)

end Runs

/-- A set of characters written down in the same way. -/
def Ranges.ofText (text : String) : Ranges :=
  (Runs.ofText text).map fun run => (run.low, run.high)

end BulkIngest.Text
