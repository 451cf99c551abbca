import Lifeline.Session.Basic

/-! # The session loop

Each cycle of the loop looks for a stop request, waits until something is ready, and handles what
is ready in a fixed order: the operator, the stream, the heartbeat.  A line sent in a cycle has
therefore restarted the interval before the heartbeat of that cycle is looked at.

`advance` makes the next move of a session that is not suspended, and `settle` makes moves until
the session is suspended or has ended.  A session is suspended in the wait, or where a write is
pending; nothing else can hold it up.
-/

namespace Lifeline

/-- How long a session without heartbeats waits before it looks for a stop request. -/
def idlePoll : Nat := second

namespace World

/-! ## Waiting -/

/-- The time at which a wait that begins now ends by itself. -/
def deadline (w : World) : Nat :=
  nextTick (w.now + (w.session.clock.remaining w.now).getD idlePoll)

/-- Ends the wait if it can end now.  Ctrl+C ends it before anything else is looked at; otherwise
    the operator and the stream are both asked, whichever of them or the deadline ended the
    wait. -/
def wake? (w : World) (deadline : Nat) : Option (Readiness × World) :=
  if w.stop.interrupted then some ({ interrupted := true }, w)
  else
    let (operator, queue) := w.operator.tryTake
    let (stream, after) := { w with operator := queue }.receive
    if operator.isNone && stream.isNone && w.now < deadline then none
    else some ({ operator, stream }, after)

def wait (w : World) : Readiness × World :=
  match w.wake? w.deadline with
  | some woken => woken
  | none =>
    let later := { w with now := w.deadline }
    (later.wake? w.deadline).getD ({}, later)

/-! ## One cycle -/

def finish (w : World) (outcome : Outcome) : World :=
  { (w.enter outcome.state).closeTransport with phase := .ended outcome }

def afterProbe (due : Nat) : Verdict × World → World
  | (.goOn, w) => { w with phase := .atHead }
  | (.finish outcome, w) => w.finish outcome
  | (.suspend rest, w) => { w with phase := .sendingProbe rest due }

def afterStream (w : World) : World := afterProbe w.now (w.checkHeartbeat w.now)

/-- The part of a cycle that follows the operator: the read, then the heartbeat. -/
def afterOperator (w : World) (read : Option ReadOutcome) : World :=
  match read with
  | none => w.afterStream
  | some read =>
    match w.handleStream read with
    | (some outcome, w) => w.finish outcome
    | (none, w) => w.afterStream

def afterLine (text : String) (read : Option ReadOutcome) : Verdict × World → World
  | (.goOn, w) => w.afterOperator read
  | (.finish outcome, w) => w.finish outcome
  | (.suspend rest, w) => { w with phase := .sendingLine text rest read }

def dispatch (w : World) (ready : Readiness) : World :=
  if ready.interrupted then w.finish .interrupted
  else
    match ready.operator with
    | none => w.afterOperator ready.stream
    | some .closed => afterLine "" ready.stream (w.handleOperator .closed)
    | some (.line text) => afterLine text ready.stream (w.handleOperator (.line text))

/-! ## Moves -/

def begin (w : World) : World :=
  match w.phase with
  | .created => { w.enter .active with phase := .atHead }
  | _ => w

/-- The next move of a session, or none if it is suspended, ended or not begun. -/
def advance? (w : World) : Option World :=
  match w.phase with
  | .created | .ended _ => none
  | .atHead =>
    if w.stop.requested then some (w.finish .interrupted)
    else some { w with phase := .waiting w.deadline }
  | .waiting deadline => (w.wake? deadline).map fun (ready, w) => w.dispatch ready
  | .sendingLine text rest read =>
    if w.session.transport.stream.blocked then none
    else some (afterLine text read (w.sendLine text rest))
  | .sendingProbe rest due =>
    if w.session.transport.stream.blocked then none
    else some (afterProbe due (w.sendProbe rest due))

def moves : Nat → World → World
  | 0, w => w
  | n + 1, w =>
    match w.advance? with
    | none => w
    | some w => moves n w

/-- A bound on the moves that a session can make before time passes: two for each cycle, and a cycle
    takes a line, reads a byte, sends an overdue probe or is the last. -/
def work (w : World) : Nat :=
  2 * (w.operator.lines.length + w.session.transport.stream.inbound.length) + 12

def settle (w : World) : World := moves w.work w

end World

end Lifeline
