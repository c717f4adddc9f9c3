import CallJournal.Real.Double

namespace CallJournal

/-- A span of time that is not negative. -/
structure Duration where
  nanos : Nat
  deriving DecidableEq, Repr

namespace Duration

def nanosPerSecond : Nat := 1000000000

def ofSeconds (seconds : Nat) : Duration := ⟨seconds * nanosPerSecond⟩

def seconds (duration : Duration) : Nat := duration.nanos / nanosPerSecond

/-- The nanoseconds after the whole seconds. -/
def subsecond (duration : Duration) : Nat := duration.nanos % nanosPerSecond

/-- Milliseconds with microsecond resolution. The microseconds are rounded to a double before the
division by a thousand rounds once more. -/
def milliseconds (duration : Duration) : Real.Double :=
  (Real.Double.ofNat (duration.nanos / 1000)).div (Real.Double.ofNat 1000)

end Duration

end CallJournal
