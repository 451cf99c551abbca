import Lifeline.Proofs.Session.Rest

/-! # Shutdowns that fail

How the shutdown of a stream turns out is recorded and nothing else.  `World.smooth` is a world in
which no shutdown has failed or will fail, and every move of a session leads from the smooth world
to the smooth one, so a whole course does (`smooth_follow`): without the failures of shutdowns every
session is the same but for these records.
-/

namespace Lifeline

/-! ## Smooth worlds -/

def Stream.smooth (s : Stream) : Stream := { s with shutdownFailure := none }

def Exchange.smooth : Exchange → Exchange
  | .shutDown _ => .shutDown none
  | exchange => exchange

def Happening.smooth : Happening → Happening
  | .exchanged exchange => .exchanged exchange.smooth
  | happening => happening

def Transport.smooth (t : Transport) : Transport := { t with stream := t.stream.smooth }

def Session.smooth (session : Session) : Session :=
  { session with transport := session.transport.smooth }

/-- The world as it would be if no shutdown ever failed. -/
def World.smooth (w : World) : World :=
  { w with
    session := w.session.smooth
    history := w.history.map fun record => { record with what := record.what.smooth } }

/-- Whether an occurrence makes a later shutdown fail. -/
def Occurrence.spoilsShutdown : Occurrence → Bool
  | .act (.stream (.failShutdown _)) => true
  | _ => false

theorem Exchange.map_smooth_eq {exchanges : List Exchange}
    (others : ∀ exchange ∈ exchanges, exchange.isShutDown = false) :
    exchanges.map Exchange.smooth = exchanges := by
  refine (List.map_congr_left fun exchange member => ?_).trans (List.map_id _)
  have other := others exchange member
  cases exchange <;> first | rfl | cases other

theorem Stream.unnoticed_smooth : Unnoticed Stream.smooth where
  writes s offered := by
    unfold Stream.write
    dsimp only [Stream.smooth]
    split <;> rfl
  flushes _ := rfl

namespace Transport

variable (t : Transport)

theorem send_smooth (op : Operation) (payload : Bytes) :
    t.smooth.send op payload =
      ((t.send op payload).1, (t.send op payload).2.1.smooth, (t.send op payload).2.2) :=
  send_unnoticed Stream.unnoticed_smooth t op payload

theorem receive_smooth (room : Nat) :
    t.smooth.receive room =
      ((t.receive room).1, (t.receive room).2.1.smooth, (t.receive room).2.2) := by
  have read : t.stream.smooth.read room =
      ((t.stream.read room).1, (t.stream.read room).2.smooth) := by
    unfold Stream.read
    dsimp only [Stream.smooth]
    split <;> rfl
  cases closed : t.closed with
  | true => simp [receive, smooth, closed]
  | false =>
    simp only [receive, smooth, closed, read, Bool.false_eq_true, if_false]
    generalize t.stream.read room = answered
    obtain ⟨_ | _ | _, later⟩ := answered <;> rfl

theorem close_smooth : t.smooth.close = (t.close.1.smooth, t.close.2.map Exchange.smooth) := by
  cases closed : t.closed <;> simp [close, smooth, closed, Stream.smooth, Exchange.smooth]

/-- A send does not ask for the shutdown. -/
theorem send_exchanges_smooth (op : Operation) (payload : Bytes) :
    (t.send op payload).2.2.map Exchange.smooth = (t.send op payload).2.2 := by
  cases closed : t.closed with
  | true => simp [send, closed]
  | false => exact Exchange.map_smooth_eq (send_sent closed op payload).no_shutDown

theorem receive_exchanges_smooth (room : Nat) :
    (t.receive room).2.2.map Exchange.smooth = (t.receive room).2.2 := by
  cases closed : t.closed with
  | true => simp [receive, closed]
  | false =>
    obtain ⟨stream, received, -⟩ := receive_received closed room
    exact Exchange.map_smooth_eq received.no_shutDown

end Transport

namespace World

variable (w : World)

theorem smooth_note (happenings : List Happening) :
    (w.note happenings).smooth = w.smooth.note (happenings.map Happening.smooth) := by
  simp [smooth, note]

theorem smooth_emit (event : Event) : (w.emit event).smooth = w.smooth.emit event :=
  w.smooth_note _

theorem smooth_enter (state : State) : (w.enter state).smooth = w.smooth.enter state :=
  smooth_note ..

/-- What is asked of the stream is recorded alike unless it is the shutdown. -/
theorem smooth_ask (transport : Transport) {exchanges kept : List Exchange}
    (same : exchanges.map Exchange.smooth = kept) :
    ({ w with session := { w.session with transport } }.note
      (exchanges.map .exchanged)).smooth =
      { w.smooth with session := { w.smooth.session with transport := transport.smooth } }.note
        (kept.map .exchanged) := by
  rw [smooth_note, ← same]
  simp only [List.map_map]
  rfl

theorem smooth_send (op : Operation) (payload : Bytes) :
    w.smooth.send op payload = ((w.send op payload).1, (w.send op payload).2.smooth) := by
  have asked := w.smooth_ask (w.session.transport.send op payload).2.1
    (w.session.transport.send_exchanges_smooth op payload)
  have sent : w.smooth.session.transport.send op payload = _ :=
    w.session.transport.send_smooth op payload
  unfold send
  rw [sent]
  exact congrArg (Prod.mk _) asked.symm

theorem smooth_receive : w.smooth.receive = (w.receive.1, w.receive.2.smooth) := by
  have asked := w.smooth_ask (w.session.transport.receive w.session.buffer.length).2.1
    (w.session.transport.receive_exchanges_smooth w.session.buffer.length)
  have received : w.smooth.session.transport.receive w.smooth.session.buffer.length = _ :=
    w.session.transport.receive_smooth w.session.buffer.length
  unfold receive
  rw [received]
  generalize w.session.transport.receive w.session.buffer.length = answer at asked
  obtain ⟨receipt, transport, exchanges⟩ := answer
  cases receipt with
  | pending | failed => exact congrArg (Prod.mk _) asked.symm
  | bytes chunk =>
    have filled := congrArg (fun v : World => { v with
      session := { v.session with buffer := chunk ++ v.session.buffer.drop chunk.length } }) asked
    exact congrArg (Prod.mk _) filled.symm

theorem smooth_closeTransport : w.closeTransport.smooth = w.smooth.closeTransport := by
  have recorded : w.session.transport.close.2.map Exchange.smooth = _ := rfl
  have asked := w.smooth_ask w.session.transport.close.1 recorded
  have closed : w.smooth.session.transport.close = _ := w.session.transport.close_smooth
  unfold closeTransport
  rw [closed]
  exact asked

theorem smooth_finish (outcome : Outcome) :
    (w.finish outcome).smooth = w.smooth.finish outcome := by
  have closed := (w.enter outcome.state).smooth_closeTransport
  rw [smooth_enter] at closed
  exact congrArg (fun v : World => { v with phase := .ended outcome }) closed

/-! ## One cycle -/

theorem smooth_sendLine (text : String) (rest : Bytes) :
    w.smooth.sendLine text rest = ((w.sendLine text rest).1, (w.sendLine text rest).2.smooth) := by
  unfold sendLine
  rw [smooth_send]
  generalize w.send .send rest = answer
  obtain ⟨_ | _ | _, v⟩ := answer
  · exact congrArg (Prod.mk _) ((v.recordSend v.now).smooth_emit (.sent text)).symm
  · rfl
  · rfl

theorem smooth_sendProbe (rest : Bytes) (due : Nat) :
    w.smooth.sendProbe rest due = ((w.sendProbe rest due).1, (w.sendProbe rest due).2.smooth) := by
  unfold sendProbe
  rw [smooth_send]
  generalize w.send .heartbeat rest = answer
  obtain ⟨_ | _ | _, v⟩ := answer <;> rfl

theorem smooth_afterProbe (due : Nat) (answer : Verdict × World) :
    (afterProbe due answer).smooth = afterProbe due (answer.1, answer.2.smooth) := by
  obtain ⟨verdict, v⟩ := answer
  cases verdict with
  | finish outcome => exact v.smooth_finish outcome
  | goOn | suspend => rfl

theorem smooth_afterStream : w.afterStream.smooth = w.smooth.afterStream := by
  have same : w.smooth.session.clock.isDue w.smooth.now = w.session.clock.isDue w.now := rfl
  unfold afterStream checkHeartbeat
  rw [same]
  split
  · have sent : w.smooth.sendProbe w.smooth.session.filter.probe w.smooth.now = _ :=
      w.smooth_sendProbe w.session.filter.probe w.now
    rw [sent]
    exact smooth_afterProbe ..
  · exact smooth_afterProbe ..

theorem smooth_afterOperator (read : Option ReadOutcome) :
    (w.afterOperator read).smooth = w.smooth.afterOperator read := by
  match read with
  | none => exact w.smooth_afterStream
  | some (.error fault) => exact w.smooth_finish _
  | some (.ok 0) =>
    have shown := (w.emit .peerClosed).smooth_finish .peerClosed
    rwa [smooth_emit] at shown
  | some (.ok (n + 1)) =>
    have same : w.smooth.session.filter.hides (w.smooth.session.buffer.take (n + 1)) =
      w.session.filter.hides (w.session.buffer.take (n + 1)) := rfl
    cases hidden : w.session.filter.hides (w.session.buffer.take (n + 1)) with
    | true =>
      simp only [afterOperator, handleStream, same, hidden, if_true]
      exact w.smooth_afterStream
    | false =>
      simp only [afterOperator, handleStream, same, hidden, Bool.false_eq_true, if_false]
      rw [smooth_afterStream, smooth_emit]
      rfl

theorem smooth_afterLine (text : String) (read : Option ReadOutcome) (answer : Verdict × World) :
    (afterLine text read answer).smooth = afterLine text read (answer.1, answer.2.smooth) := by
  obtain ⟨verdict, v⟩ := answer
  cases verdict with
  | goOn => exact v.smooth_afterOperator read
  | finish outcome => exact v.smooth_finish outcome
  | suspend => rfl

theorem smooth_handleOperator (input : Operator.Input) :
    w.smooth.handleOperator input =
      ((w.handleOperator input).1, (w.handleOperator input).2.smooth) := by
  cases input with
  | closed => rfl
  | line text =>
    have same : w.smooth.session.quitKeyword = w.session.quitKeyword := rfl
    unfold handleOperator
    dsimp only
    rw [same]
    split
    · exact congrArg (Prod.mk _) (smooth_emit ..).symm
    · split
      · exact congrArg (Prod.mk _) (smooth_emit ..).symm
      · exact w.smooth_sendLine text _

theorem smooth_dispatch (ready : Readiness) :
    (w.dispatch ready).smooth = w.smooth.dispatch ready := by
  unfold dispatch
  split
  · exact w.smooth_finish _
  · split
    · exact w.smooth_afterOperator _
    · rw [smooth_handleOperator]
      exact smooth_afterLine ..
    · rw [smooth_handleOperator]
      exact smooth_afterLine ..

theorem smooth_wake (deadline : Nat) :
    w.smooth.wake? deadline = (w.wake? deadline).map fun (ready, v) => (ready, v.smooth) := by
  cases pressed : w.stop.interrupted with
  | true =>
    rw [wake?_of_interrupted pressed, wake?_of_interrupted (by exact pressed)]
    rfl
  | false =>
    have asked : w.smooth.asked.receive = _ := w.asked.smooth_receive
    have queue : w.smooth.operator = w.operator := rfl
    have now : w.smooth.now = w.now := rfl
    rw [wake?_of_calm pressed, wake?_of_calm (by exact pressed), woken, asked, queue, now]
    split <;> rfl

/-! ## Courses -/

theorem smooth_advance : w.smooth.advance? = w.advance?.map smooth := by
  have phase : w.smooth.phase = w.phase := rfl
  have stop : w.smooth.stop = w.stop := rfl
  have blocked : w.smooth.session.transport.stream.blocked = w.session.transport.stream.blocked := rfl
  unfold advance?
  rw [phase]
  split
  · rfl
  · rfl
  · rw [stop]
    split
    · exact congrArg some (w.smooth_finish .interrupted).symm
    · rfl
  · rw [smooth_wake, Option.map_map, Option.map_map]
    congr 1
    funext ⟨ready, v⟩
    exact (v.smooth_dispatch ready).symm
  · rw [blocked]
    split
    · rfl
    · rw [smooth_sendLine]
      exact congrArg some (smooth_afterLine ..).symm
  · rw [blocked]
    split
    · rfl
    · rw [smooth_sendProbe]
      exact congrArg some (smooth_afterProbe ..).symm

theorem smooth_begin : w.begin.smooth = w.smooth.begin := by
  have phase : w.smooth.phase = w.phase := rfl
  unfold World.begin
  rw [phase]
  split
  · exact congrArg (fun v : World => { v with phase := .atHead }) (w.smooth_enter .active)
  · rfl

theorem smooth_enterLine (text : String) :
    (w.enterLine text).2.smooth = (w.smooth.enterLine text).2 := by
  have phase : w.smooth.phase = w.phase := rfl
  have queue : w.smooth.operator = w.operator := rfl
  rw [enterLine_eq, enterLine_eq, phase, queue]
  split
  · exact smooth_note ..
  · rfl

theorem smooth_after {occurrence : Occurrence} (other : occurrence.spoilsShutdown = false) :
    (w.after occurrence).smooth = w.smooth.after occurrence := by
  match occurrence with
  | .act (.stream change) =>
    have changed : (w.session.transport.stream.change change).smooth =
        w.session.transport.stream.smooth.change change := by
      cases change <;> first | rfl | cases other
    exact congrArg w.smooth.withStream changed
  | .act (.line text) => exact w.smooth_enterLine text
  | .act .closeInput | .act .ctrlC | .act .installHandlers | .act (.signal _) => rfl
  | .act (.sleep milliseconds) =>
    -- for any time, as the sum itself is not to be computed
    have passed (now : Nat) : ({ w with now } : World).smooth = { w.smooth with now } := rfl
    exact passed (w.now + milliseconds * millisecond)
  | .elapse _ => rfl
  | .begin => exact w.smooth_begin
  | .move =>
    have moved : w.smooth.after .move = (w.advance?.map smooth).getD w.smooth :=
      congrArg (·.getD w.smooth) w.smooth_advance
    rw [moved, Option.getD_map]
    rfl

theorem smooth_after_spoiling {occurrence : Occurrence} (spoils : occurrence.spoilsShutdown = true) :
    (w.after occurrence).smooth = w.smooth := by
  match occurrence with
  | .act (.stream (.failShutdown _)) => rfl

theorem smooth_follow (course : List Occurrence) :
    (w.follow course).smooth =
      w.smooth.follow (course.filter fun occurrence => !occurrence.spoilsShutdown) := by
  induction course generalizing w with
  | nil => rfl
  | cons occurrence course inductionHypothesis =>
    cases spoils : occurrence.spoilsShutdown with
    | true =>
      rw [follow_cons, inductionHypothesis, smooth_after_spoiling w spoils]
      simp [spoils]
    | false =>
      rw [follow_cons, inductionHypothesis, smooth_after w spoils]
      simp [spoils]

end World

end Lifeline
