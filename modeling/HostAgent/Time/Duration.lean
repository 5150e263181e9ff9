import HostAgent.Decimal.Binary64
import HostAgent.Decimal.Power

/-!
# Durations

Lengths of time in nanoseconds. There is a longest one, `2^64` seconds less a
nanosecond, and doubling stops there. An instant is the duration since the start
of the clock.
-/

namespace HostAgent

structure Duration where
  nanos : Nat
deriving DecidableEq, Repr, Inhabited

namespace Duration

def zero : Duration := ⟨0⟩

def longest : Duration := ⟨twoPow 64 * tenPow 9 - 1⟩

def ofMillis (n : Nat) : Duration := ⟨n * tenPow 6⟩

def ofSecs (n : Nat) : Duration := ⟨n * tenPow 9⟩

/-- Whole milliseconds. -/
def millis (d : Duration) : Nat := d.nanos / tenPow 6

/-- Whole seconds. -/
def secs (d : Duration) : Nat := d.nanos / tenPow 9

/-- Milliseconds, rounded up: what a clock of milliseconds waits. -/
def ticks (d : Duration) : Nat := (d.nanos + (tenPow 6 - 1)) / tenPow 6

/-- Seconds and the fraction of a second. -/
def seconds (d : Duration) : Float :=
  d.secs.toUInt64.toFloat + (d.nanos % tenPow 9).toUInt64.toFloat / 1e9

/-- Twice as long, up to the longest duration. -/
def double (d : Duration) : Duration := ⟨min (2 * d.nanos) longest.nanos⟩

/-- The time from an instant to a later one. -/
def since (later earlier : Duration) : Duration := ⟨later.nanos - earlier.nanos⟩

instance : Add Duration := ⟨fun a b => ⟨a.nanos + b.nanos⟩⟩

instance : LT Duration := ⟨fun a b => a.nanos < b.nanos⟩

instance (a b : Duration) : Decidable (a < b) := inferInstanceAs (Decidable (a.nanos < b.nanos))

end Duration

end HostAgent
