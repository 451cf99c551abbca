/-! # Stop requests from outside

Ctrl+C interrupts a session at once; SIGTERM and SIGHUP raise a flag that the session reads at the
start of every cycle.  Both flags stay raised.  A second Ctrl+C ends the process on the spot, and
so does a signal that nothing is installed to catch.
-/

namespace Lifeline

inductive Signal where
  | term
  | hup
deriving DecidableEq, Repr

def Signal.number : Signal → Nat
  | .hup => 1
  | .term => 15

structure Stop where
  interrupted : Bool := false
  terminating : Bool := false
  /-- Signals are caught and no longer end the process. -/
  installed : Bool := false
  /-- The status with which the process ended on the spot. -/
  exited : Option Nat := none
deriving DecidableEq, Repr

namespace Stop

def interruptedStatus : Nat := 130

def requested (stop : Stop) : Bool := stop.interrupted || stop.terminating

def install (stop : Stop) : Stop := { stop with installed := true }

/-- Ctrl+C: the first asks the session to stop, the second ends the process. -/
def press (stop : Stop) : Stop :=
  if stop.interrupted then { stop with exited := some interruptedStatus }
  else { stop with interrupted := true }

def deliver (stop : Stop) (signal : Signal) : Stop :=
  if stop.installed then { stop with terminating := true }
  else { stop with exited := some (128 + signal.number) }

end Stop

end Lifeline
