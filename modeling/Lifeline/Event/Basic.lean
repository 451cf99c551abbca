/-! # Events

What the operator is shown of a session.  Heartbeats in either direction are no events.
-/

namespace Lifeline

inductive Event where
  | connected (peer quitKeyword : String)
  | sent (text : String)
  /-- The peer sent something that is no heartbeat. -/
  | received (text : String)
  /-- The operator entered a blank line, and nothing was sent. -/
  | skipped
  | farewell
  | peerClosed
deriving DecidableEq, Repr

end Lifeline
