import Mathlib

/-!
# The rate limiter (`core/rate_limit.py`)

Each key has a bucket of the times of its allowed calls.  A call first drops the buckets that have
run out, every so often, and then what has run out of its own bucket.
-/

namespace ScholarshipFinder

/-- A reading of `monotonic`, in seconds. -/
abbrev Seconds := ℚ

/-- A key without a bucket has no entry. -/
structure InMemoryRateLimiter where
  requests : String → Option (List Seconds)
  nextSweep : Seconds

namespace InMemoryRateLimiter

/-- `InMemoryRateLimiter()` -/
def initial : InMemoryRateLimiter where
  requests := fun _ => none
  nextSweep := 0

/-- `not b or b[-1] <= cutoff` -/
def ranOut (cutoff : Seconds) (bucket : List Seconds) : Bool :=
  bucket.getLast?.all (· ≤ cutoff)

/-- `_evict_expired` -/
def evictExpired (limiter : InMemoryRateLimiter) (now : Seconds) (windowSeconds : ℤ) :
    InMemoryRateLimiter :=
  if now < limiter.nextSweep then limiter
  else
    { requests := fun key => (limiter.requests key).filter (!ranOut (now - windowSeconds) ·)
      nextSweep := now + windowSeconds }

/-- What `allow` does with the bucket of the key. -/
def serve (limiter : InMemoryRateLimiter) (now : Seconds) (key : String) (limit : ℕ)
    (windowSeconds : ℤ) : Bool × InMemoryRateLimiter :=
  let bucket := ((limiter.requests key).getD []).dropWhile (· ≤ now - windowSeconds)
  if limit ≤ bucket.length then
    (false, { limiter with requests := Function.update limiter.requests key (some bucket) })
  else
    (true, { limiter with
      requests := Function.update limiter.requests key (some (bucket ++ [now])) })

/-- `allow`, at this reading of the clock -/
def allow (limiter : InMemoryRateLimiter) (now : Seconds) (key : String) (limit : ℕ)
    (windowSeconds : ℤ) : Bool × InMemoryRateLimiter :=
  (limiter.evictExpired now windowSeconds).serve now key limit windowSeconds

end InMemoryRateLimiter

end ScholarshipFinder
