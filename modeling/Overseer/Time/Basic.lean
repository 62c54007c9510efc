/-!
# Spans, instants and clocks

Time is counted in whole nanoseconds: a `Span` is a length of time, never
negative, and an `Instant` is a point on the line, before or after the epoch
1970-01-01T00:00:00Z. A `Clock` answers each reading from a fixed sequence of
instants, so that two runs which read it in the same order see the same times.
-/

namespace Overseer

/-! ## Spans -/

/-- A length of time. -/
structure Span where
  nanos : Nat
  deriving DecidableEq, Inhabited

namespace Span

def nanosPerSecond : Nat := 1000000000

def zero : Span := ⟨0⟩

def ofSeconds (seconds : Nat) : Span := ⟨seconds * nanosPerSecond⟩

def ofMillis (millis : Nat) : Span := ⟨millis * 1000000⟩

/-- The whole seconds of a span. -/
def wholeSeconds (span : Span) : Nat := span.nanos / nanosPerSecond

/-- The nanoseconds of a span beyond its whole seconds. -/
def subsecondNanos (span : Span) : Nat := span.nanos % nanosPerSecond

/-- The last uptime that can be told: seconds are counted up to `2 ^ 63 - 1`, and one of
them had gone by at the outset. -/
def lastUptime : Span := ⟨9223372036854775807 * nanosPerSecond - 1⟩

/-- The sum of two spans; none where it is beyond `limit`. -/
def plus? (limit span more : Span) : Option Span :=
  if span.nanos + more.nanos ≤ limit.nanos then some ⟨span.nanos + more.nanos⟩ else none

/-- What `passed` leaves of `span`; none where it is more than `span`. -/
def minus? (span passed : Span) : Option Span :=
  if passed.nanos ≤ span.nanos then some ⟨span.nanos - passed.nanos⟩ else none

/-- Whether `passed` falls short of `span`. -/
def exceeds (span passed : Span) : Bool := passed.nanos < span.nanos

/-- Whether `passed` reaches `span`. -/
def metBy (span passed : Span) : Bool := span.nanos ≤ passed.nanos

end Span

/-! ## Instants -/

/-- A point in time, as nanoseconds since the epoch. -/
structure Instant where
  nanos : Int
  deriving DecidableEq, Inhabited

namespace Instant

def ofSeconds (seconds : Int) : Instant := ⟨seconds * 1000000000⟩

/-- The instant `span` later. -/
def later (instant : Instant) (span : Span) : Instant := ⟨instant.nanos + span.nanos⟩

/-- The time from `start` to `stop`; zero when `stop` comes first. -/
def elapsed (start stop : Instant) : Span := ⟨(stop.nanos - start.nanos).toNat⟩

end Instant

/-! ## Clocks -/

/-- A clock: the instant of each reading, and how many readings were taken. -/
structure Clock where
  instants : Nat → Instant
  readings : Nat := 0

namespace Clock

/-- Reads the clock. -/
def read (clock : Clock) : Instant × Clock :=
  (clock.instants clock.readings, { clock with readings := clock.readings + 1 })

/-- The clock that starts at `start` and moves by `step` nanoseconds with each
reading; `step` may be negative. -/
def stepping (start : Instant) (step : Int) : Clock where
  instants n := ⟨start.nanos + n * step⟩

/-- The stepping clock of rehearsals: one second a reading, from
2024-01-01T00:00:00Z. -/
def standard : Clock := stepping (Instant.ofSeconds 1704067200) 1000000000

end Clock

end Overseer
