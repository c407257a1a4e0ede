/-!
Spans of time.
-/

namespace RpcTransport

/-- A span of time in seconds and nanoseconds. -/
structure Duration where
  seconds : UInt64
  nanos : UInt32

namespace Duration

/-- The whole milliseconds of a span. -/
def millis (d : Duration) : Nat :=
  d.seconds.toNat * 1000 + d.nanos.toNat / 1000000

/-- A span in seconds, as a double. -/
def toSeconds (d : Duration) : Float :=
  d.seconds.toFloat + d.nanos.toFloat / 1000000000

end Duration

end RpcTransport
