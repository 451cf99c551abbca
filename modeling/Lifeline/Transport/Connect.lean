import Lifeline.Config.Basic
import Lifeline.Transport.Basic

/-! # Opening a connection

An attempt to connect to an address is opened, fails, or is never answered.  A limit ends an attempt
that takes longer; an answer that comes at the limit still counts.
-/

namespace Lifeline

/-- What the network makes of an attempt, and after how long. -/
inductive Attempt where
  | opened (stream : Stream) (after : Nat)
  | failed (cause : Cause) (after : Nat)
  | unanswered
deriving DecidableEq, Repr

def addressOf (host : String) (port : UInt16) : String := s!"{host}:{port.toNat}"

def Cause.timedOut (limit : Nat) : Cause :=
  .worded .timedOut s!"timed out after {(secondsOf limit).text}s"

def Attempt.inTime (limit : Option Nat) (after : Nat) (answer : Except Cause Stream) :
    Except Cause Stream :=
  match limit with
  | none => answer
  | some limit => if after ≤ limit then answer else .error (.timedOut limit)

/-- What comes of an attempt under a limit, or `none` if it goes on for ever. -/
def Attempt.result? (attempt : Attempt) (limit : Option Nat) : Option (Except Cause Stream) :=
  match attempt with
  | .opened stream after => some (inTime limit after (.ok stream))
  | .failed cause after => some (inTime limit after (.error cause))
  | .unanswered => limit.map fun limit => .error (.timedOut limit)

def Transport.connect? (host : String) (port : UInt16) (limit : Option Nat) (attempt : Attempt) :
    Option (Except ConnectError Transport) :=
  (attempt.result? limit).map fun
    | .ok stream => .ok { stream }
    | .error cause => .error ⟨addressOf host port, cause⟩

end Lifeline
