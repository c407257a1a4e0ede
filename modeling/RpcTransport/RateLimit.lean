import RpcTransport.Config.Duration
import RpcTransport.Decimal.Shortest

/-!
A token bucket, by which events that come too often are suppressed. Tokens accrue with time up to
the bucket's capacity; an event takes one.
-/

namespace RpcTransport

/-- How fast events may come. -/
structure RateLimit where
  /-- The greatest number of tokens. -/
  capacity : Float
  /-- Tokens per second. -/
  refillRate : Float

/-- `burst` events at once, at least one, then one event per interval. -/
def RateLimit.every (interval : Duration) (burst : UInt32) : RateLimit where
  capacity := (max burst 1).toFloat
  refillRate := if 0 < interval.toSeconds then 1 / interval.toSeconds else 1 / 0

/-- A bucket with its tokens. -/
structure TokenBucket where
  limit : RateLimit
  tokens : Float

namespace TokenBucket

/-- A full bucket. -/
def make (limit : RateLimit) : TokenBucket :=
  ⟨limit, limit.capacity⟩

/-- The lesser of two doubles; one that is no number does not count. -/
def lesser (x y : Float) : Float :=
  if x.isNaN then y else if y.isNaN then x else if x < y then x else y

/-- The bucket after so many seconds. A refill that is not finite fills it. -/
def refill (elapsed : Float) (bucket : TokenBucket) : TokenBucket :=
  let fresh := elapsed * bucket.limit.refillRate
  if fresh.isFinite then
    { bucket with tokens := lesser (bucket.tokens + fresh) bucket.limit.capacity }
  else
    { bucket with tokens := bucket.limit.capacity }

/-- Asks for a token so many seconds after the last time. -/
def tryAcquire (elapsed : Float) (bucket : TokenBucket) : Bool × TokenBucket :=
  let bucket := bucket.refill elapsed
  if bucket.tokens ≥ 1 then (true, { bucket with tokens := bucket.tokens - 1 })
  else (false, bucket)

/-- Asks for a token once per elapsed time. -/
def acquireAll : List Float → TokenBucket → List Bool
  | [], _ => []
  | elapsed :: rest, bucket =>
    let (taken, bucket) := bucket.tryAcquire elapsed
    taken :: acquireAll rest bucket

/-- The bucket for a log. -/
def debug (bucket : TokenBucket) : String :=
  "TokenBucket \x7b capacity: " ++ Decimal.debugFormat.render bucket.limit.capacity
    ++ ", refill_rate: " ++ Decimal.debugFormat.render bucket.limit.refillRate ++ " \x7d"

end TokenBucket

end RpcTransport
