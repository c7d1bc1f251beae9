import BulkIngest.Number.Binary64
import BulkIngest.Time.Duration

/-!
Documents per second over the last five seconds. Samples are kept from the oldest to the newest;
those that are too old are dropped from the front whenever a new one comes.
-/

namespace BulkIngest

/-- How many documents had been attempted at an instant, in nanoseconds. -/
structure RateSample where
  time : Nat
  attempted : Nat
deriving DecidableEq

/-- A number of documents in a span of time, both exact; no documents if the span is empty. -/
structure Rate where
  documents : Nat
  nanoseconds : Nat
deriving DecidableEq

namespace Rate

def none : Rate := ⟨0, 0⟩

/-- Whole documents per second. -/
def floor (rate : Rate) : Nat := rate.documents * 1000000000 / rate.nanoseconds

/-- A span of time in seconds: whole seconds and the rest, each rounded, and rounded again. -/
def seconds? (nanoseconds : Nat) : Option Binary64 := do
  let whole ← Binary64.ofNat? (nanoseconds / 1000000000)
  let rest ← (← Binary64.ofNat? (nanoseconds % 1000000000)).div? (← Binary64.ofNat? (1000000000))
  whole.add? rest

/-- Documents per second as the display takes them. -/
def number? (rate : Rate) : Option Binary64 :=
  if rate.nanoseconds = 0 then Binary64.zero false
  else do (← Binary64.ofNat? rate.documents).div? (← seconds? rate.nanoseconds)

end Rate

structure RateWindow where
  samples : List RateSample
deriving DecidableEq

namespace RateWindow

/-- Five seconds in nanoseconds. -/
def length : Nat := 5 * 1000000000

def start (now : Nat) : RateWindow := ⟨[⟨now, 0⟩]⟩

def isTooOld (now : Nat) (sample : RateSample) : Bool := length < now - sample.time

def add (now attempted : Nat) (window : RateWindow) : RateWindow :=
  ⟨window.samples.dropWhile (isTooOld now) ++ [⟨now, attempted⟩]⟩

/-- What was done since the oldest sample. -/
def rate (now attempted : Nat) (window : RateWindow) : Rate :=
  match window.samples with
  | oldest :: _ =>
    if oldest.time < now then ⟨attempted - oldest.attempted, now - oldest.time⟩ else .none
  | [] => .none

/-- Takes a sample and gives the rate with it. -/
def measure (now attempted : Nat) (window : RateWindow) : Rate × RateWindow :=
  let window := window.add now attempted
  (window.rate now attempted, window)

end RateWindow

end BulkIngest
