import BulkIngest.Progress.Rate
import BulkIngest.Progress.Snapshot
import BulkIngest.Text.Grouped
import BulkIngest.Text.Quoted
import BulkIngest.Text.Table

/-!
The progress of a run for people: a label and a small table with the rate, the counters, the share
that is done and the time that is left at the present rate.
-/

namespace BulkIngest

structure ProgressDisplay where
  label : String
  /-- How many documents there are, if that is known. -/
  total : Option Nat
  last : Snapshot

namespace ProgressDisplay

/-- With two places, a half rounded to the even one. -/
def twoPlaces (x : Binary64) : String :=
  let hundredths := roundHalfEven (x.numerator * 100) Binary64.scale
  let places := hundredths % 100
  s!"{hundredths / 100}." ++ (if places < 10 then s!"0{places}" else s!"{places}")

/-- The whole part of a rate, at most `2 ^ 64 - 1`. -/
def wholeRate (rate : Binary64) : Nat := min rate.floor (UInt64.size - 1)

/-- `attempted` as a percentage of `total`. -/
def percentText (attempted total : Nat) : String :=
  let percent : Option Binary64 := do
    let share ← (← Binary64.ofNat? attempted).div? (← Binary64.ofNat? total)
    share.mul? (← Binary64.ofNat? 100)
  match percent with
  | some percent => twoPlaces percent ++ "%"
  | none => "inf%"

/-- The time for `left` documents at a rate above zero, if there is a span that long. -/
def timeFor? (left : Nat) (rate : Binary64) : Option Duration := do
  let seconds ← (← Binary64.ofNat? left).div? rate
  Duration.ofNanoseconds? (roundHalfEven (seconds.numerator * 1000000000) Binary64.scale)

def isPositive (rate : Binary64) : Bool := !rate.negative && !rate.isZero

/-- The share that is done and the time that is left; `none` if that time is beyond all spans. -/
def outlook (display : ProgressDisplay) (rate : Binary64) : Option (String × String) :=
  let attempted := display.last.attempted
  match display.total with
  | some (total + 1) =>
    let percent := percentText attempted (total + 1)
    if isPositive rate ∧ attempted < total + 1 then
      (timeFor? (total + 1 - attempted) rate).map fun time => (percent, time.clockText)
    else some (percent, "--:--")
  | _ => some ("--%", "--:--")

/-- The lines to show after `elapsed` at the given rate. -/
def render (display : ProgressDisplay) (elapsed : Duration) (rate : Binary64) :
    Option (List String) :=
  (display.outlook rate).map fun (percent, remaining) =>
    let snapshot := display.last
    let row (left right : String) : Text.Row := [.right left, .right right]
    let succeeded := Text.grouped snapshot.succeeded
    let attempted := Text.grouped snapshot.attempted
    let table := Text.Table.plain
      [row (Text.grouped (wholeRate rate) ++ " Docs/s") s!"{succeeded} / {attempted} indexed",
        row (Text.grouped snapshot.failed ++ " failed") percent,
        row (elapsed.clockText ++ " elapsed") (remaining ++ " remaining")]
    s!"index: {display.label}".splitOn "\n" ++ table

/-- What is said when the time that is left is beyond all spans. -/
def beyondAllSpans : String :=
  "cannot convert float seconds to Duration: value is either too big or NaN"

def describe (display : ProgressDisplay) : String :=
  let total :=
    match display.total with
    | some n => s!"Some({n})"
    | none => "None"
  let last := display.last
  "ProgressDisplay \x7b label: " ++ Text.quoted display.label ++ s!", total: {total}, last: " ++
    "ProgressSnapshot \x7b attempted: " ++ toString last.attempted ++
    s!", succeeded: {last.succeeded}, failed: {last.failed} \x7d \x7d"

end ProgressDisplay

end BulkIngest
