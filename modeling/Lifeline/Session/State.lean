import Lifeline.Fault

/-! # The life of a session

A session is connecting, then active, then in one of three closed states, which its outcome
decides.
-/

namespace Lifeline

inductive State where
  | connecting
  | active
  | closedClean
  | closedPeer
  | closedError
deriving DecidableEq, Repr

namespace State

def all : List State := [.connecting, .active, .closedClean, .closedPeer, .closedError]

def name : State → String
  | .connecting => "connecting"
  | .active => "active"
  | .closedClean => "closed_clean"
  | .closedPeer => "closed_peer"
  | .closedError => "closed_error"

def isTerminal : State → Bool
  | .connecting | .active => false
  | .closedClean | .closedPeer | .closedError => true

end State

inductive Outcome where
  | operatorQuit
  | inputClosed
  /-- Ctrl+C or a signal. -/
  | interrupted
  | peerClosed
  | fault (fault : Fault)
deriving DecidableEq, Repr

def Outcome.state : Outcome → State
  | .operatorQuit | .inputClosed | .interrupted => .closedClean
  | .peerClosed => .closedPeer
  | .fault _ => .closedError

end Lifeline
