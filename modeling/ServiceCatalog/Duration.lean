/-!
# Spans of time

A span is counted in nanoseconds and has at most 2^64 - 1 whole seconds. Adding two spans fails beyond that.
-/

namespace ServiceCatalog

/-- The nanoseconds of a second. -/
def Duration.nanosPerSecond : Nat := 1000000000

/-- The nanoseconds of 2^64 seconds, which no span reaches. -/
def Duration.limit : Nat := 18446744073709551616 * nanosPerSecond

/-- A span of time. -/
structure Duration where
  nanos : Nat
  bounded : nanos < Duration.limit
deriving DecidableEq

namespace Duration

/-- A span of seconds and a part of a second. -/
def ofParts? (seconds nanos : Nat) : Option Duration :=
  let total := seconds * nanosPerSecond + nanos
  if h : total < limit then some ⟨total, h⟩ else none

/-- A span of whole seconds. -/
def ofSeconds (seconds : UInt64) : Duration where
  nanos := seconds.toNat * nanosPerSecond
  bounded := by
    have h := seconds.toNat_lt
    simp only [limit, nanosPerSecond]
    omega

/-- No time at all. -/
def zero : Duration := ⟨0, by decide⟩

instance : Inhabited Duration := ⟨zero⟩

/-- The whole seconds of a span. -/
def seconds (d : Duration) : Nat := d.nanos / nanosPerSecond

/-- What a span has beyond its whole seconds. -/
def subsecond (d : Duration) : Nat := d.nanos % nanosPerSecond

/-- Whether a span is empty. -/
def isZero (d : Duration) : Bool := d.nanos == 0

/-- The sum of two spans, unless it is too long. -/
def add? (a b : Duration) : Option Duration :=
  if h : a.nanos + b.nanos < limit then some ⟨a.nanos + b.nanos, h⟩ else none

theorem nanos_add {a b c : Duration} (h : a.add? b = some c) : c.nanos = a.nanos + b.nanos := by
  unfold add? at h
  split at h
  · cases h; rfl
  · cases h

theorem add?_eq_none_iff {a b : Duration} : a.add? b = none ↔ limit ≤ a.nanos + b.nanos := by
  unfold add?
  split <;> simp <;> omega

/-- What is said when a sum is too long. -/
def overflowMessage : String := "overflow when adding durations"

end Duration

end ServiceCatalog
