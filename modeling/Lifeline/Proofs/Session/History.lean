import Lifeline.Proofs.Transport.Exchanges
import Lifeline.Session.Script

/-! # What happened in a world

The history of a world can be read in several ways: as the states that the session entered, the
exchanges with the stream, the events that the operator was shown, or the lines that were queued.
Each operation of `Lifeline.Session.Basic` adds known happenings and changes known fields, which the
lemmas here say once, so that no later proof opens the operations.
-/

namespace Lifeline

/-! ## Kinds of happenings -/

namespace Happening

def state? : Happening → Option State
  | .entered state => some state
  | _ => none

def line? : Happening → Option String
  | .queued line => some line
  | _ => none

def exchange? : Happening → Option Exchange
  | .exchanged exchange => some exchange
  | _ => none

def event? : Happening → Option Event
  | .shown event => some event
  | _ => none

theorem filterMap_exchanged {α : Type} {f : Happening → Option α}
    (other : ∀ exchange, f (.exchanged exchange) = none) (exchanges : List Exchange) :
    (exchanges.map exchanged).filterMap f = [] := by
  rw [List.filterMap_map]
  exact List.filterMap_eq_nil_iff.mpr fun exchange _ => other exchange

theorem mem_exchanges {happenings : List Happening} {exchange : Exchange} :
    exchange ∈ happenings.filterMap exchange? ↔ .exchanged exchange ∈ happenings := by
  rw [List.mem_filterMap]
  constructor
  · rintro ⟨happening, member, same⟩
    cases happening <;> simp only [exchange?, Option.some.injEq, reduceCtorEq] at same
    exact same ▸ member
  · exact fun member => ⟨_, member, rfl⟩

theorem mem_events {happenings : List Happening} {event : Event} :
    event ∈ happenings.filterMap event? ↔ .shown event ∈ happenings := by
  rw [List.mem_filterMap]
  constructor
  · rintro ⟨happening, member, same⟩
    cases happening <;> simp only [event?, Option.some.injEq, reduceCtorEq] at same
    exact same ▸ member
  · exact fun member => ⟨_, member, rfl⟩

end Happening

def Transport.Accepted.trace {payload rest : Bytes} (op : Operation)
    (accepted : Transport.Accepted payload rest) : List Happening :=
  (accepted.exchanges op).map .exchanged

theorem Transport.Accepted.trace_append {payload rest left : Bytes} (op : Operation)
    (front : Transport.Accepted payload rest) (later : Transport.Accepted rest left) :
    (front.append later).trace op = front.trace op ++ later.trace op := by
  simp [Accepted.trace, Accepted.exchanges, Accepted.append]

namespace World

def happenings (w : World) : List Happening := w.history.map (·.what)

/-- The states that the session passed, the first of which it is created in. -/
def states (w : World) : List State := .connecting :: w.happenings.filterMap Happening.state?

def queuedLines (w : World) : List String := w.happenings.filterMap Happening.line?

def exchanges (w : World) : List Exchange := w.happenings.filterMap Happening.exchange?

/-- All that the session did; lines are queued from outside. -/
def doings (w : World) : List Happening := w.happenings.filter fun happening => happening.line?.isNone

def events (w : World) : List Event := w.happenings.filterMap Happening.event?

/-! ## Effects of the operations -/

def exchange (w : World) (stream : Stream) (exchanges : List Exchange) : World :=
  { w with session := { w.session with transport := { w.session.transport with stream } } }.note
    (exchanges.map .exchanged)

/-- The world after a read that put bytes into the buffer. -/
def fill (w : World) (stream : Stream) (chunk : Bytes) : World :=
  let after := w.exchange stream [.read chunk]
  { after with
    session := { after.session with buffer := chunk ++ after.session.buffer.drop chunk.length } }

/-- The world after the exchanges of a send, which may have used up an allowance. -/
def afterSend (w : World) (failure : Option (Cause × Nat)) (exchanges : List Exchange) : World :=
  w.exchange { w.session.transport.stream with writeFailure := failure } exchanges

def closedSession (w : World) (outcome : Outcome) : Session :=
  { w.session with
    state := outcome.state
    transport := { w.session.transport with closed := true } }

variable (w : World)

@[simp] theorem happenings_note (happenings : List Happening) :
    (w.note happenings).happenings = w.happenings ++ happenings := by
  simp [World.happenings, note, Function.comp_def]

@[simp] theorem happenings_emit (event : Event) :
    (w.emit event).happenings = w.happenings ++ [.shown event] := happenings_note ..

@[simp] theorem happenings_enter (state : State) :
    (w.enter state).happenings = w.happenings ++ [.entered state] := happenings_note ..

@[simp] theorem happenings_recordSend (time : Nat) :
    (w.recordSend time).happenings = w.happenings := rfl

@[simp] theorem happenings_exchange (stream : Stream) (exchanges : List Exchange) :
    (w.exchange stream exchanges).happenings = w.happenings ++ exchanges.map .exchanged :=
  happenings_note ..

@[simp] theorem happenings_fill (stream : Stream) (chunk : Bytes) :
    (w.fill stream chunk).happenings = w.happenings ++ [.exchanged (.read chunk)] :=
  happenings_exchange ..

@[simp] theorem session_fill (stream : Stream) (chunk : Bytes) :
    (w.fill stream chunk).session =
      { w.session with
        transport := { w.session.transport with stream }
        buffer := chunk ++ w.session.buffer.drop chunk.length } := rfl

@[simp] theorem happenings_afterSend (failure : Option (Cause × Nat)) (exchanges : List Exchange) :
    (w.afterSend failure exchanges).happenings = w.happenings ++ exchanges.map .exchanged :=
  happenings_exchange ..

@[simp] theorem happenings_moveTo (phase : Phase) : { w with phase }.happenings = w.happenings := rfl

/-! ## What is added to a history -/

section

variable {w} {v : World} {new : List Happening} (more : v.happenings = w.happenings ++ new)

include more

/-- Every way to read a history goes on where it was. -/
theorem filterMap_more {α : Type} (f : Happening → Option α) :
    v.happenings.filterMap f = w.happenings.filterMap f ++ new.filterMap f := by
  rw [more, List.filterMap_append]

theorem filter_more (p : Happening → Bool) :
    v.happenings.filter p = w.happenings.filter p ++ new.filter p := by
  rw [more, List.filter_append]

theorem states_more : v.states = w.states ++ new.filterMap Happening.state? :=
  congrArg (State.connecting :: ·) (filterMap_more more Happening.state?)

theorem queuedLines_more : v.queuedLines = w.queuedLines ++ new.filterMap Happening.line? :=
  filterMap_more more Happening.line?

theorem exchanges_more : v.exchanges = w.exchanges ++ new.filterMap Happening.exchange? :=
  filterMap_more more Happening.exchange?

theorem events_more : v.events = w.events ++ new.filterMap Happening.event? :=
  filterMap_more more Happening.event?

theorem doings_more :
    v.doings = w.doings ++ new.filter fun happening => happening.line?.isNone :=
  filter_more more _

end

/-! ## The end of a session -/

variable {w}

theorem closeTransport_of_open (isOpen : w.session.transport.closed = false) :
    w.closeTransport =
      { w with
        session := { w.session with transport := { w.session.transport with closed := true } }
      }.note [.exchanged (.shutDown w.session.transport.stream.shutdownFailure)] := by
  simp [closeTransport, Transport.close, isOpen]

/-- Ending a session whose connection is open asks for the shutdown once. -/
theorem happenings_finish (isOpen : w.session.transport.closed = false) (outcome : Outcome) :
    (w.finish outcome).happenings = w.happenings ++
      [.entered outcome.state,
        .exchanged (.shutDown w.session.transport.stream.shutdownFailure)] := by
  -- the state is entered before the stream is asked for the shutdown
  have stillOpen : (w.enter outcome.state).session.transport.closed = false := isOpen
  rw [finish, happenings_moveTo, closeTransport_of_open stillOpen, happenings_note]
  simp [World.happenings, enter, note]

theorem finish_more {v : World} {new : List Happening}
    (more : v.happenings = w.happenings ++ new) (isOpen : v.session.transport.closed = false)
    (outcome : Outcome) :
    (v.finish outcome).happenings = w.happenings ++ (new ++
      [.entered outcome.state,
        .exchanged (.shutDown v.session.transport.stream.shutdownFailure)]) := by
  rw [happenings_finish isOpen, more, List.append_assoc]

theorem session_finish (isOpen : w.session.transport.closed = false) (outcome : Outcome) :
    (w.finish outcome).session = w.closedSession outcome := by
  have stillOpen : (w.enter outcome.state).session.transport.closed = false := isOpen
  rw [finish, closeTransport_of_open stillOpen]
  rfl

/-- However a session ends, its connection is closed behind it. -/
theorem closed_finish (w : World) (outcome : Outcome) :
    (w.finish outcome).session.transport.closed = true := by
  cases isOpen : w.session.transport.closed with
  | false => rw [session_finish isOpen]; rfl
  | true =>
    have already : (w.enter outcome.state).session.transport.closed = true := isOpen
    simp [finish, closeTransport, Transport.close, already, note]

/-! ## Exchanges -/

theorem send_afterSend (isOpen : w.session.transport.closed = false) (op : Operation)
    (payload : Bytes) :
    ∃ progress failure exchanges, Transport.Sent op payload progress exchanges ∧
      w.send op payload = (progress, w.afterSend failure exchanges) := by
  obtain ⟨failure, frame⟩ := Transport.send_stream isOpen op payload
  refine ⟨_, failure, _, Transport.send_sent isOpen op payload, ?_⟩
  simp only [send, frame, afterSend, exchange]

/-- What a receive over an open connection can come to, as the session sees it. -/
inductive Receives (w : World) : Option ReadOutcome → World → Prop where
  | nothing (received : Transport.Received w.session.transport.stream w.session.buffer.length
      .pending w.session.transport.stream []) : Receives w none w
  | failed {cause : Cause} (received : Transport.Received w.session.transport.stream
      w.session.buffer.length (.failed (.of .receive cause)) w.session.transport.stream
      [.readFailed cause]) :
      Receives w (some (.error (.of .receive cause)))
        (w.exchange w.session.transport.stream [.readFailed cause])
  | bytes {stream : Stream} {chunk : Bytes} (received : Transport.Received
      w.session.transport.stream w.session.buffer.length (.bytes chunk) stream [.read chunk]) :
      Receives w (some (.ok chunk.length)) (w.fill stream chunk)

theorem Receives.closed {outcome : Option ReadOutcome} {v : World} (receives : Receives w outcome v) :
    v.session.transport.closed = w.session.transport.closed := by
  cases receives <;> rfl

theorem receive_receives (isOpen : w.session.transport.closed = false) :
    Receives w w.receive.1 w.receive.2 := by
  obtain ⟨stream, received, frame⟩ :=
    Transport.receive_received isOpen w.session.buffer.length
  unfold receive
  generalize w.session.transport.receive w.session.buffer.length = answer at received frame
  obtain ⟨receipt, transport, exchanges⟩ := answer
  dsimp only at received frame ⊢
  subst frame
  cases received with
  | nothing empty healthy awaited =>
    -- a pending read leaves no trace at all
    have unchanged : w.note [] = w := by simp [note]
    simpa [unchanged] using Receives.nothing (.nothing empty healthy awaited)
  | failed empty broken => exact .failed (.failed empty broken)
  | endOfInput empty healthy ended => exact .bytes (.endOfInput empty healthy ended)
  | chunk arrived front back => exact .bytes (.chunk arrived front back)

end World

end Lifeline
