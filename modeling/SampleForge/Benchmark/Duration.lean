/-!
# Durations

A duration is a number of seconds of 64 bits and less than a billion nanoseconds.  Sums are checked:
a sum whose seconds do not fit is `none`.
-/

namespace SampleForge

def nanosPerSecond : Nat := 1000000000

/-- A span of time. -/
structure Duration where
  seconds : UInt64
  nanos : Nat
  nanos_lt : nanos < nanosPerSecond

namespace Duration

/-- A span of the given number of nanoseconds, if its seconds fit. -/
def ofNanos? (n : Nat) : Option Duration :=
  if n / nanosPerSecond < UInt64.size then
    some ⟨UInt64.ofNat (n / nanosPerSecond), n % nanosPerSecond, Nat.mod_lt _ (by decide)⟩
  else none

/-- The span in nanoseconds. -/
def toNanos (d : Duration) : Nat :=
  d.seconds.toNat * nanosPerSecond + d.nanos

def zero : Duration := ⟨0, 0, by decide⟩

/-- Adds the seconds and the nanoseconds, carries, and checks that the seconds fit. -/
def add? (a b : Duration) : Option Duration :=
  let nanos := a.nanos + b.nanos
  let seconds := a.seconds.toNat + b.seconds.toNat + nanos / nanosPerSecond
  if seconds < UInt64.size then
    some ⟨UInt64.ofNat seconds, nanos % nanosPerSecond, Nat.mod_lt _ (by decide)⟩
  else none

/-- The sum of a list of spans. -/
def sum? (spans : List Duration) : Option Duration :=
  spans.foldlM add? zero

end Duration
end SampleForge
