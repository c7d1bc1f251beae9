import BulkIngest.Outcome

/-!
The counters of a run, and their publication. A subscriber always finds the latest snapshot, and can
tell whether one was published since it looked.
-/

namespace BulkIngest

structure Snapshot where
  attempted : Nat
  succeeded : Nat
  failed : Nat
deriving DecidableEq

namespace Snapshot

def zero : Snapshot := ⟨0, 0, 0⟩

def add (snapshot : Snapshot) (outcomes : List Outcome) : Snapshot :=
  let succeeded := outcomes.countP (·.isSuccess)
  { attempted := snapshot.attempted + outcomes.length
    succeeded := snapshot.succeeded + succeeded
    failed := snapshot.failed + (outcomes.length - succeeded) }

end Snapshot

/-- The counters of a run and every snapshot of them that was published, the latest first. -/
structure Tracker where
  snapshot : Snapshot
  published : List Snapshot
deriving DecidableEq

namespace Tracker

def new : Tracker := ⟨.zero, []⟩

def publish (tracker : Tracker) (snapshot : Snapshot) : Tracker :=
  ⟨snapshot, snapshot :: tracker.published⟩

def reset (tracker : Tracker) : Tracker := tracker.publish .zero

def record (tracker : Tracker) (outcomes : List Outcome) : Tracker :=
  tracker.publish (tracker.snapshot.add outcomes)

/-- How often a snapshot was published. -/
def version (tracker : Tracker) : Nat := tracker.published.length

/-- What a subscriber sees: the latest snapshot, or zero before the first one. -/
def latest (tracker : Tracker) : Snapshot := tracker.published.headD .zero

end Tracker

/-- A subscriber knows which version it saw last. -/
structure Subscription where
  seen : Nat
deriving DecidableEq

namespace Subscription

def start (tracker : Tracker) : Subscription := ⟨tracker.version⟩

def hasChanged (subscription : Subscription) (tracker : Tracker) : Bool :=
  subscription.seen ≠ tracker.version

end Subscription

end BulkIngest
