/-!
The device's clock: a counter of 40 bits. An `Instant` is a reading of it, a
`Duration` a count of its ticks, and both stay within 40 bits, so that instants
add and subtract modulo `2 ^ 40`. A tick is 1 / (128 · 499.2 MHz), about 15.65 ps.
-/

namespace UwbRadio

def maxTicks : UInt64 := 0xffffffffff

structure Instant where
  ticks : UInt64
  deriving DecidableEq

structure Duration where
  ticks : UInt64
  deriving DecidableEq

namespace Duration

def ofTicks? (ticks : UInt64) : Option Duration :=
  if ticks ≤ maxTicks then some ⟨ticks⟩ else none

def ofTicks (ticks : UInt32) : Duration :=
  ⟨ticks.toUInt64⟩

/-- Whole nanoseconds, rounded to the nearest tick: a nanosecond is 63.8976 of them. -/
def ofNanoseconds (nanoseconds : UInt32) : Duration :=
  ⟨(nanoseconds.toUInt64 * 638976 + 5000) / 10000⟩

def nanoseconds (duration : Duration) : UInt64 :=
  duration.ticks * 10000 / 638976

instance : Ord Duration where
  compare left right := compare left.ticks right.ticks

end Duration

namespace Instant

def ofTicks? (ticks : UInt64) : Option Instant :=
  if ticks ≤ maxTicks then some ⟨ticks⟩ else none

def wrapping (ticks : UInt64) : Instant :=
  ⟨ticks &&& maxTicks⟩

/-- The time from `earlier` to `later`. The clock wraps, so an earlier instant may
have the larger reading. -/
def since (later earlier : Instant) : Duration :=
  if later.ticks ≥ earlier.ticks then
    ⟨later.ticks - earlier.ticks⟩
  else
    ⟨maxTicks - earlier.ticks + later.ticks + 1⟩

def add (instant : Instant) (duration : Duration) : Instant :=
  ⟨(instant.ticks + duration.ticks) % (maxTicks + 1)⟩

instance : HAdd Instant Duration Instant where
  hAdd := add

def describe (instant : Instant) : String :=
  "Instant(" ++ toString instant.ticks.toNat ++ ")"

end Instant

def Duration.describe (duration : Duration) : String :=
  "Duration(" ++ toString duration.ticks.toNat ++ ")"

end UwbRadio
