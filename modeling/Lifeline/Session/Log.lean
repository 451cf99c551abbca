import Lifeline.Log
import Lifeline.Session.Script

/-! # The log of a session

What is logged of a session follows from its history: the states it enters, the lines and probes that
were delivered, the heartbeats that were hidden, and how it ended.
-/

namespace Lifeline

/-! ## Sources -/

def Transport.logSource : String := "tether_core::transport"

def Session.logSource : String := "tether_core::session"

def Operator.logSource : String := "tether_core::operator"

/-! ## Records -/

def Session.logged (level : Log.Level) (message : String) (fields : List (String × String)) :
    Log.Record where
  level
  source := logSource
  message
  fields

def Fault.logged (fault : Fault) : Log.Record :=
  Session.logged .warn s!"{fault.op.name} failed"
    [("error", fault.text), ("cause", fault.cause.text)]

/-- What is logged of an outcome, before the session enters its last state. -/
def Outcome.logged : Outcome → List Log.Record
  | .inputClosed => [Session.logged .debug "operator input closed" []]
  | .fault reason => [reason.logged]
  | .operatorQuit | .interrupted | .peerClosed => []

def State.logged (before after : State) : Log.Record :=
  Session.logged .debug "session state" [("from", before.name), ("to", after.name)]

def State.loggedClosing (state : State) (failure : Option Cause) : List Log.Record :=
  let closed : List Log.Record := failure.toList.map fun cause =>
    { level := .debug, source := Transport.logSource, message := "shutdown after close"
      fields := [("error", cause.text)] }
  closed ++ [Session.logged .info "session ended" [("state", state.name)]]

namespace World

def loggedOf (w : World) (state : State) : Happening → List Log.Record
  | .entered next =>
    (if next.isTerminal then (w.phase.outcome?.map Outcome.logged).getD [] else []) ++
      [state.logged next]
  | .shown (.sent text) =>
    [Session.logged .debug "sent operator message"
      [("bytes", s!"{(Text.encode text).length}")]]
  | .shown .peerClosed => [Session.logged .info "peer closed the connection" []]
  | .exchanged (.flushed .heartbeat none) => [Session.logged .debug "heartbeat sent" []]
  | .exchanged (.read (b :: bytes)) =>
    if w.session.filter.hides (b :: bytes) then
      [Session.logged .trace "discarded heartbeat from peer" []]
    else []
  | .exchanged (.shutDown failure) => state.loggedClosing failure
  | _ => []

def logged (w : World) (state : State) : List Happening → List Log.Record
  | [] => []
  | what :: more =>
    let next := match what with
      | .entered next => next
      | _ => state
    w.loggedOf state what ++ w.logged next more

end World

end Lifeline
