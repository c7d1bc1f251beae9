import BulkIngest.Time.Duration

/-!
How long to wait before a request is sent again.
-/

namespace BulkIngest

structure RetryPolicy where
  maxRetries : UInt32
  baseDelay : Duration
  maxDelay : Duration
deriving DecidableEq

namespace RetryPolicy

/-- The base delay doubled `retry` times; `none` where the factor passes 32 bits or the product is
no span of time. -/
def doubled? (policy : RetryPolicy) (retry : Nat) : Option Duration :=
  if retry < 32 then Duration.ofNanoseconds? (policy.baseDelay.nanoseconds * Nat.pow 2 retry)
  else none

/-- The delay before retry number `retry`, counted from zero. -/
def delayFor (policy : RetryPolicy) (retry : Nat) : Duration :=
  match policy.doubled? retry with
  | some delay => delay.min policy.maxDelay
  | none => policy.maxDelay

end RetryPolicy

end BulkIngest
