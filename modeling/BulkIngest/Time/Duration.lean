/-!
Spans of time in nanoseconds, less than `2 ^ 64` seconds. A span has two written forms: with its
largest unit and an exact fraction, and as a clock reading in whole seconds.
-/

namespace BulkIngest

structure Duration where
  nanoseconds : Nat
  bounded : nanoseconds < UInt64.size * 1000000000
deriving DecidableEq

namespace Duration

def limit : Nat := UInt64.size * 1000000000

def zero : Duration := ⟨0, by decide⟩

/-- The span of `nanoseconds`, if there is one. -/
def ofNanoseconds? (nanoseconds : Nat) : Option Duration :=
  if h : nanoseconds < UInt64.size * 1000000000 then some ⟨nanoseconds, h⟩ else none

def ofMilliseconds (milliseconds : UInt64) : Duration :=
  ⟨milliseconds.toNat * 1000000, by have := milliseconds.toNat_lt_size; omega⟩

def ofSeconds (seconds : UInt64) : Duration :=
  ⟨seconds.toNat * 1000000000, by have := seconds.toNat_lt_size; omega⟩

def seconds (d : Duration) : Nat := d.nanoseconds / 1000000000

def subsecond (d : Duration) : Nat := d.nanoseconds % 1000000000

/-- Whole milliseconds, a started one counted as a whole one. -/
def millisecondsUp (d : Duration) : Nat := (d.nanoseconds + 999999) / 1000000

def min (a b : Duration) : Duration := if a.nanoseconds ≤ b.nanoseconds then a else b

theorem eq_of_nanoseconds {a b : Duration} (same : a.nanoseconds = b.nanoseconds) : a = b := by
  cases a
  cases b
  cases same
  rfl

theorem nanoseconds_min (a b : Duration) :
    (a.min b).nanoseconds = Nat.min a.nanoseconds b.nanoseconds := by
  simp only [min, Nat.min_def]
  split <;> rfl

/-- The fraction `part / 10 ^ places` behind a point, without zeros at its end. -/
def fractionText (part places : Nat) : String :=
  let digits := Nat.toDigits 10 part
  let padded := List.replicate (places - digits.length) '0' ++ digits
  let trimmed := (padded.reverse.dropWhile (· = '0')).reverse
  if trimmed.isEmpty then "" else "." ++ String.ofList trimmed

/-- In the largest unit of which there is at least one: `30s`, `1.5s`, `100ms`, `1.001µs`, `0ns`. -/
def unitText (d : Duration) : String :=
  let n := d.nanoseconds
  if 1000000000 ≤ n then toString (n / 1000000000) ++ fractionText (n % 1000000000) 9 ++ "s"
  else if 1000000 ≤ n then toString (n / 1000000) ++ fractionText (n % 1000000) 6 ++ "ms"
  else if 1000 ≤ n then toString (n / 1000) ++ fractionText (n % 1000) 3 ++ "µs"
  else toString n ++ "ns"

private def twoDigits (n : Nat) : String := if n < 10 then "0" ++ toString n else toString n

/-- Minutes and seconds, and hours in front if there are any. -/
def clockText (d : Duration) : String :=
  let hours := d.seconds / 3600
  let rest := twoDigits (d.seconds % 3600 / 60) ++ ":" ++ twoDigits (d.seconds % 60)
  if hours = 0 then rest else twoDigits hours ++ ":" ++ rest

end Duration

end BulkIngest
