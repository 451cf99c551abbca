import Lifeline.Proofs.Transport.Exchanges

/-! # Calls on one connection

Whoever holds a connection sends, receives and closes in any order, and between these calls the
stream may change.  `Transport.calls` runs such a sequence and keeps the answers and all that was
asked of the stream.  A send or a receive that is left pending counts as dropped; a send may be
taken up again by a later call with the rest of its payload.

Until the first close the connection stays open, and what was received and what still waits are
together all that arrived (`calls_open`).  The close asks for the shutdown, and after it every call
has a fixed answer and asks nothing of the stream (`calls_closed`).
-/

namespace Lifeline.Transport

/-! ## Sequences of calls -/

inductive Call where
  | send (op : Operation) (payload : Bytes)
  | receive (room : Nat)
  | close
  | change (change : Stream.Change)
deriving DecidableEq, Repr

inductive Answer where
  | sent (progress : Progress)
  | received (receipt : Receipt)
  | closed
  | changed
deriving DecidableEq, Repr

/-- The answers to some calls, the connection behind them and what was asked of its stream. -/
structure Dealings where
  answers : List Answer
  transport : Transport
  exchanges : List Exchange
deriving DecidableEq, Repr

def call (t : Transport) : Call → Answer × Transport × List Exchange
  | .send op payload =>
    let (progress, t, exchanges) := t.send op payload
    (.sent progress, t, exchanges)
  | .receive room =>
    let (receipt, t, exchanges) := t.receive room
    (.received receipt, t, exchanges)
  | .close => (.closed, t.close)
  | .change change => (.changed, { t with stream := t.stream.change change }, [])

def calls (t : Transport) : List Call → Dealings
  | [] => ⟨[], t, []⟩
  | c :: later =>
    let (answer, t, exchanges) := t.call c
    let rest := t.calls later
    ⟨answer :: rest.answers, rest.transport, exchanges ++ rest.exchanges⟩

theorem calls_append (t : Transport) (front back : List Call) :
    t.calls (front ++ back) =
      let before := t.calls front
      let after := before.transport.calls back
      ⟨before.answers ++ after.answers, after.transport, before.exchanges ++ after.exchanges⟩ := by
  induction front generalizing t with
  | nil => rfl
  | cons c front inductionHypothesis =>
    simp only [List.cons_append, calls, inductionHypothesis, List.append_assoc]

/-! ## Before the close -/

variable {t : Transport}

/-- The bytes that a call brings to the reading side. -/
def Call.arriving : Call → Bytes
  | .change (.arrive bytes) => bytes
  | _ => []

/-- The bytes that an answer hands over. -/
def Answer.bytes : Answer → Bytes
  | .received (.bytes chunk) => chunk
  | _ => []

theorem change_inbound (s : Stream) (change : Stream.Change) :
    (s.change change).inbound = s.inbound ++ (Call.change change).arriving := by
  cases change <;> simp [Stream.change, Call.arriving]

/-- A receive hands over the front of what waits, or nothing. -/
theorem Received.bytes_inbound {s stream : Stream} {room : Nat} {receipt : Receipt}
    {exchanges : List Exchange} (received : Received s room receipt stream exchanges) :
    (Answer.received receipt).bytes ++ stream.inbound = s.inbound := by
  cases received with
  | nothing | failed => rfl
  | endOfInput => rfl
  | chunk _ front back => rw [front, back]; exact List.take_append_drop _ _

/-- A call other than a close leaves the connection open, asks for no shutdown, and loses no byte:
    what it hands over and what then waits is what waited and what arrives with it. -/
theorem call_open (isOpen : t.closed = false) {c : Call} (other : c ≠ .close) :
    (t.call c).2.1.closed = false ∧
    (∀ exchange ∈ (t.call c).2.2, exchange.isShutDown = false) ∧
    (t.call c).1.bytes ++ (t.call c).2.1.stream.inbound = t.stream.inbound ++ c.arriving := by
  cases c with
  | send op payload =>
    obtain ⟨failure, after⟩ := send_stream isOpen op payload
    refine ⟨?_, (send_sent isOpen op payload).no_shutDown, ?_⟩ <;> simp only [call, after]
    · exact isOpen
    · exact (List.append_nil _).symm
  | receive room =>
    obtain ⟨stream, received, after⟩ := receive_received isOpen room
    refine ⟨?_, received.no_shutDown, ?_⟩ <;> simp only [call, after]
    · exact isOpen
    · exact received.bytes_inbound.trans (List.append_nil _).symm
  | close => exact absurd rfl other
  | change change => exact ⟨isOpen, nofun, change_inbound t.stream change⟩

theorem calls_open (isOpen : t.closed = false) {cs : List Call} (unclosed : .close ∉ cs) :
    (t.calls cs).transport.closed = false ∧
    (∀ exchange ∈ (t.calls cs).exchanges, exchange.isShutDown = false) ∧
    (t.calls cs).answers.flatMap Answer.bytes ++ (t.calls cs).transport.stream.inbound =
      t.stream.inbound ++ cs.flatMap Call.arriving := by
  induction cs generalizing t with
  | nil => exact ⟨isOpen, nofun, (List.append_nil _).symm⟩
  | cons c cs inductionHypothesis =>
    rw [List.mem_cons, not_or] at unclosed
    obtain ⟨stillOpen, running, bytes⟩ := call_open isOpen (Ne.symm unclosed.1)
    obtain ⟨laterOpen, laterRunning, laterBytes⟩ := inductionHypothesis stillOpen unclosed.2
    refine ⟨laterOpen, ?_, ?_⟩
    · simp only [calls, List.mem_append]
      rintro exchange (now | later)
      · exact running exchange now
      · exact laterRunning exchange later
    · calc ((t.calls (c :: cs)).answers.flatMap Answer.bytes ++
            (t.calls (c :: cs)).transport.stream.inbound)
          = (t.call c).1.bytes ++ (((t.call c).2.1.calls cs).answers.flatMap Answer.bytes ++
              ((t.call c).2.1.calls cs).transport.stream.inbound) := by
            simp only [calls, List.flatMap_cons, List.append_assoc]
        _ = (t.call c).1.bytes ++ ((t.call c).2.1.stream.inbound ++ cs.flatMap Call.arriving) := by
            rw [laterBytes]
        _ = t.stream.inbound ++ (c :: cs).flatMap Call.arriving := by
            rw [← List.append_assoc, bytes, List.append_assoc, List.flatMap_cons]

/-! ## After the close -/

/-- What a call changes of the stream without its holder asking for it. -/
def Call.alter (s : Stream) : Call → Stream
  | .change news => s.change news
  | _ => s

/-- The answer to a call on a closed connection. -/
def Call.refusal : Call → Answer
  | .send op _ => .sent (.failed ⟨op, .other, .worded .notConnected "transport already closed"⟩)
  | .receive _ =>
    .received (.failed ⟨.receive, .other, .worded .notConnected "transport already closed"⟩)
  | .close => .closed
  | .change _ => .changed

theorem call_closed (s : Stream) (c : Call) :
    (Transport.mk s true).call c = (c.refusal, ⟨c.alter s, true⟩, []) := by
  cases c <;> rfl

theorem calls_closed (s : Stream) (cs : List Call) :
    (Transport.mk s true).calls cs = ⟨cs.map Call.refusal, ⟨cs.foldl Call.alter s, true⟩, []⟩ := by
  induction cs generalizing s with
  | nil => rfl
  | cons c cs inductionHypothesis =>
    simp only [calls, call_closed, inductionHypothesis, List.map_cons, List.foldl_cons,
      List.append_nil]

/-! ## The whole sequence -/

theorem call_close (isOpen : t.closed = false) :
    t.call .close = (.closed, ⟨t.stream, true⟩, [.shutDown t.stream.shutdownFailure]) := by
  simp only [call, close, isOpen, Bool.false_eq_true, if_false]

/-- Over the first close of a connection, with any calls before and after it.  Before it no shutdown
    is asked for, and what was received and what still waits are together all that arrived: neither
    sends nor failed or pending calls lose a byte.  The close asks for the one shutdown, whether that
    fails or not, and it is the last that is asked of the stream: every later call is refused for the
    same cause, the operation of the fault being its own, whatever becomes of the stream. -/
theorem calls_shutDown_once (stream : Stream) (front back : List Call)
    (unclosed : .close ∉ front) :
    let before := calls { stream } front
    let all := calls { stream } (front ++ .close :: back)
    before.transport.closed = false ∧
    (∀ exchange ∈ before.exchanges, exchange.isShutDown = false) ∧
    before.answers.flatMap Answer.bytes ++ before.transport.stream.inbound =
      stream.inbound ++ front.flatMap Call.arriving ∧
    all.answers = before.answers ++ .closed :: back.map Call.refusal ∧
    all.exchanges = before.exchanges ++ [.shutDown before.transport.stream.shutdownFailure] ∧
    all.transport = ⟨back.foldl Call.alter before.transport.stream, true⟩ := by
  intro before all
  obtain ⟨isOpen, running, bytes⟩ := calls_open (t := { stream }) rfl unclosed
  have whole : all = ⟨before.answers ++ .closed :: back.map Call.refusal,
      ⟨back.foldl Call.alter before.transport.stream, true⟩,
      before.exchanges ++ [.shutDown before.transport.stream.shutdownFailure]⟩ := by
    simp only [all, calls_append]
    simp only [calls, call_close isOpen, calls_closed, List.append_nil, before]
  rw [whole]
  exact ⟨isOpen, running, bytes, rfl, rfl, rfl⟩

/-- A shutdown that fails is not asked for again, and bytes that a limited read left behind are kept
    from every later receive. -/
theorem calls_shutDown_once_failing :
    let front : List Call := [.receive 4, .change (.arrive [1, 2, 3]), .change (.limitReads 2),
      .send .send [7], .receive 4, .change (.failShutdown (.bare .other))]
    let all := calls { stream := {} } (front ++ [.close, .receive 4, .send .heartbeat [7], .close])
    .close ∉ front ∧
    all.answers.flatMap Answer.bytes = [1, 2] ∧
    all.exchanges = [.wrote .send [7], .flushed .send none, .read [1, 2],
      .shutDown (some (.bare .other))] := by
  intro front all
  have unclosed : .close ∉ front := by decide
  obtain ⟨-, -, -, answers, exchanges, -⟩ :=
    calls_shutDown_once {} front [.receive 4, .send .heartbeat [7], .close] unclosed
  exact ⟨unclosed, (congrArg (List.flatMap Answer.bytes) answers).trans (by decide),
    exchanges.trans (by decide)⟩

end Lifeline.Transport
