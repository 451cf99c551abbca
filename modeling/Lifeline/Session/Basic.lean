import Lifeline.Event.Basic
import Lifeline.Heartbeat
import Lifeline.Operator.Queue
import Lifeline.Operator.Quit
import Lifeline.Session.State
import Lifeline.Stop
import Lifeline.Transport.Basic

/-! # A session and its surroundings

A `Session` owns one connection.  A `World` is a session together with all that it meets: virtual
time, the operator's queue, the stop requests, the point of the loop at which it stands, and the
`history` of all that has happened, each record with its time.

This module holds what the session does in answer to one thing that is ready: an operator's line, a
read, or a heartbeat that may be due.  `Lifeline.Session.Loop` puts them together.
-/

namespace Lifeline

/-! ## Options and state -/

structure Options where
  /-- No heartbeats are sent without an interval. -/
  heartbeatInterval : Option Nat
  heartbeatSentinel : Bytes
  receiveBufferSize : Nat
  quitKeyword : String
deriving DecidableEq, Repr

structure Session where
  transport : Transport
  filter : Filter
  clock : Clock
  quitKeyword : String
  /-- Where reads are put.  Bytes of longer earlier reads stay behind a shorter one. -/
  buffer : Bytes
  state : State := .connecting

namespace Session

/-- A session over a fresh connection.  Its clock starts at once, and its buffer has room for at
    least one byte. -/
def start (transport : Transport) (options : Options) (filter : Filter) (now : Nat) : Session where
  transport
  filter
  clock := ⟨options.heartbeatInterval, now⟩
  quitKeyword := options.quitKeyword
  buffer := List.replicate (max 1 options.receiveBufferSize) 0

end Session

/-- The outcome of a read: how many bytes of the buffer it filled, or why it failed. -/
abbrev ReadOutcome := Except Fault Nat

/-- What became ready in one cycle.  Nothing at all means that the deadline passed. -/
structure Readiness where
  operator : Option Operator.Input := none
  stream : Option ReadOutcome := none
  interrupted : Bool := false

inductive Phase where
  | created
  | atHead
  | waiting (deadline : Nat)
  /-- Suspended with a line partly written; the read of the same cycle is still to be handled. -/
  | sendingLine (text : String) (rest : Bytes) (read : Option ReadOutcome)
  /-- Suspended with a probe partly written that was due at `due`. -/
  | sendingProbe (rest : Bytes) (due : Nat)
  | ended (outcome : Outcome)

inductive Happening where
  | entered (state : State)
  | queued (line : String)
  | exchanged (exchange : Exchange)
  | shown (event : Event)
deriving DecidableEq, Repr

structure Record where
  time : Nat
  what : Happening
deriving DecidableEq, Repr

structure World where
  now : Nat := 0
  session : Session
  operator : Operator.Queue := {}
  stop : Stop := {}
  phase : Phase := .created
  history : List Record := []

namespace World

/-! ## Records -/

def note (w : World) (happenings : List Happening) : World :=
  { w with history := w.history ++ happenings.map fun what => ⟨w.now, what⟩ }

def emit (w : World) (event : Event) : World := w.note [.shown event]

def enter (w : World) (state : State) : World :=
  { w with session := { w.session with state } }.note [.entered state]

def recordSend (w : World) (time : Nat) : World :=
  { w with session := { w.session with clock := w.session.clock.recordSend time } }

/-! ## The connection -/

def send (w : World) (op : Operation) (payload : Bytes) : Transport.Progress × World :=
  match w.session.transport.send op payload with
  | (progress, transport, exchanges) =>
    (progress,
      { w with session := { w.session with transport } }.note (exchanges.map .exchanged))

def receive (w : World) : Option ReadOutcome × World :=
  match w.session.transport.receive w.session.buffer.length with
  | (receipt, transport, exchanges) =>
    let after := { w with session := { w.session with transport } }.note
      (exchanges.map .exchanged)
    match receipt with
    | .pending => (none, after)
    | .failed fault => (some (.error fault), after)
    | .bytes chunk =>
      let buffer := chunk ++ after.session.buffer.drop chunk.length
      (some (.ok chunk.length), { after with session := { after.session with buffer } })

def closeTransport (w : World) : World :=
  match w.session.transport.close with
  | (transport, exchanges) =>
    { w with session := { w.session with transport } }.note (exchanges.map .exchanged)

/-! ## Answers to what is ready -/

inductive Verdict where
  | goOn
  | finish (outcome : Outcome)
  /-- A write is pending, with these bytes still to be written. -/
  | suspend (rest : Bytes)
deriving DecidableEq, Repr

/-- Sends a line, or the rest of one.  It counts as sent, and is shown, once all of it is written
    and flushed. -/
def sendLine (w : World) (text : String) (rest : Bytes) : Verdict × World :=
  match w.send .send rest with
  | (.done, w) => (.goOn, (w.recordSend w.now).emit (.sent text))
  | (.pending rest, w) => (.suspend rest, w)
  | (.failed fault, w) => (.finish (.fault fault), w)

def handleOperator (w : World) : Operator.Input → Verdict × World
  | .closed => (.finish .inputClosed, w)
  | .line text =>
    if Operator.isQuit text w.session.quitKeyword then
      (.finish .operatorQuit, w.emit .farewell)
    else if text.isEmpty then (.goOn, w.emit .skipped)
    else w.sendLine text (Text.encode text)

/-- Handles the outcome of a read, which may end the session: the bytes are shown unless they are a
    heartbeat. -/
def handleStream (w : World) : ReadOutcome → Option Outcome × World
  | .error fault => (some (.fault fault), w)
  | .ok 0 => (some .peerClosed, w.emit .peerClosed)
  | .ok (n + 1) =>
    let payload := w.session.buffer.take (n + 1)
    if w.session.filter.hides payload then (none, w)
    else (none, w.emit (.received (Text.decodeLossy payload)))

/-- Sends a probe that was due at `due`, or the rest of one.  The interval restarts at `due`. -/
def sendProbe (w : World) (rest : Bytes) (due : Nat) : Verdict × World :=
  match w.send .heartbeat rest with
  | (.done, w) => (.goOn, w.recordSend due)
  | (.pending rest, w) => (.suspend rest, w)
  | (.failed fault, w) => (.finish (.fault fault), w)

def checkHeartbeat (w : World) (time : Nat) : Verdict × World :=
  if w.session.clock.isDue time then w.sendProbe w.session.filter.probe time else (.goOn, w)

end World

end Lifeline
