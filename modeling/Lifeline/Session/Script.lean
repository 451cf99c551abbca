import Lifeline.Session.Loop

/-! # Running a session under a script

An `Act` is something that the outside does to a running session: the peer, the operator, the user
at the keyboard, or time.  A `Step` of a script applies one act, or several without letting the
session run in between, and then the session runs until it is suspended or has ended.  While time
passes, every deadline on the way fires at its own time, the ones at the very end included.
-/

namespace Lifeline

inductive Act where
  | stream (change : Stream.Change)
  | line (text : String)
  | closeInput
  | sleep (milliseconds : Nat)
  | ctrlC
  | installHandlers
  | signal (signal : Signal)
deriving DecidableEq, Repr

inductive Refusal where
  | full
  | noSender
  | sessionOver
deriving DecidableEq, Repr

inductive Step where
  | single (act : Act)
  | batch (acts : List Act)
deriving DecidableEq, Repr

namespace Phase

def isOver : Phase → Bool
  | .ended _ => true
  | _ => false

def outcome? : Phase → Option Outcome
  | .ended outcome => some outcome
  | _ => none

end Phase

namespace World

/-! ## Acts -/

def enterLine (w : World) (text : String) : Option Refusal × World :=
  match w.operator.offer text with
  | (.noSender, _) => (some .noSender, w)
  | (offer, queue) =>
    if w.phase.isOver then (some .sessionOver, w)
    else
      match offer with
      | .queued => (none, { w with operator := queue }.note [.queued text])
      | _ => (some .full, w)

def apply (w : World) : Act → Option Refusal × World
  | .stream change =>
    let transport := w.session.transport
    (none, { w with
      session := { w.session with
        transport := { transport with stream := transport.stream.change change } } })
  | .line text => w.enterLine text
  | .closeInput => (none, { w with operator := w.operator.close })
  | .sleep milliseconds => (none, { w with now := w.now + milliseconds * millisecond })
  | .ctrlC => (none, { w with stop := w.stop.press })
  | .installHandlers => (none, { w with stop := w.stop.install })
  | .signal signal => (none, { w with stop := w.stop.deliver signal })

def applyAll (w : World) : List Act → List (Option Refusal) × World
  | [] => ([], w)
  | act :: acts =>
    let (refusal, w) := w.apply act
    let (refusals, w) := w.applyAll acts
    (refusal :: refusals, w)

/-! ## Time -/

/-- Lets time pass up to `target`, stopping at up to `stops` deadlines on the way. -/
def passTo (target : Nat) : Nat → World → World
  | 0, w => { w with now := target }.settle
  | stops + 1, w =>
    match w.phase with
    | .waiting deadline =>
      if deadline ≤ target then passTo target stops ({ w with now := max w.now deadline }.settle)
      else { w with now := target }
    | _ => { w with now := target }

/-- Lets milliseconds pass.  A timer fires at most once in each of them. -/
def pass (w : World) (milliseconds : Nat) : World :=
  passTo (w.now + milliseconds * millisecond) (milliseconds + 1) w

/-! ## Steps -/

def perform (w : World) : Step → List (Option Refusal) × World
  | .single (.sleep milliseconds) => ([none], w.pass milliseconds)
  | .single act =>
    let (refusal, w) := w.apply act
    ([refusal], w.settle)
  | .batch acts =>
    let (refusals, w) := w.applyAll acts
    (refusals, w.settle)

/-- A session that is about to run, after acts that came before it. -/
def prepare (session : Session) (before : List Act) : World :=
  let w : World := { session }
  (w.applyAll before).2.begin.settle

def performAll (w : World) (steps : List Step) : World :=
  steps.foldl (fun w step => (w.perform step).2) w

end World

end Lifeline
