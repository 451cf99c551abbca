import Lifeline.Text.Bytes

/-! # Heartbeats

A session that has sent nothing for a full interval sends a probe.  The `Clock` knows the interval
and the time of the last outbound send; inbound traffic never touches it.  The `Filter` knows the
bytes of a probe and which inbound payloads are heartbeats, which the operator never sees.

Times and durations are whole nanoseconds, times counted from one common instant.
-/

namespace Lifeline

/-! ## Time -/

def millisecond : Nat := 1000000

def second : Nat := 1000000000

/-- The first whole millisecond that is not before a time: timers fire on whole milliseconds. -/
def nextTick (time : Nat) : Nat := (time + (millisecond - 1)) / millisecond * millisecond

/-! ## The clock -/

/-- When the next probe is due.  Without an interval none ever is. -/
structure Clock where
  interval : Option Nat
  lastSent : Nat
deriving DecidableEq, Repr

namespace Clock

/-- Time left until the next probe, zero once it is due. -/
def remaining (clock : Clock) (now : Nat) : Option Nat :=
  clock.interval.map fun interval => interval - (now - clock.lastSent)

def isDue (clock : Clock) (now : Nat) : Bool :=
  match clock.interval with
  | none => false
  | some interval => interval ≤ now - clock.lastSent

def recordSend (clock : Clock) (now : Nat) : Clock := { clock with lastSent := now }

end Clock

/-! ## The filter -/

/-- Tells heartbeats from payload on the shared connection. -/
structure Filter where
  probe : Bytes
  hides : Bytes → Bool

/-- The filter that reserves one byte string: it is the probe, and a payload is a heartbeat exactly
    when it equals it. -/
def Filter.sentinel (reserved : Bytes) : Filter := ⟨reserved, fun payload => payload == reserved⟩

end Lifeline
