import Lifeline.Transport.Basic

/-! # What is asked of the stream

`Transport.Sent` tells which exchanges a send can come to, apart from the code that makes them: the
payload goes out piece by piece, no piece empty, and then either the flush succeeds, or a write is
pending, or one exchange fails and is the last.  `send_sent` shows that every send over an open
connection is of this form, `send_stream` that it leaves the reading side alone.

`Transport.Received` does the same for a receive, which is one read, and `receive_received` shows
that every receive over an open connection is of that form.
-/

namespace Lifeline

/-! ## Kinds of exchanges -/

def Exchange.isShutDown : Exchange → Bool
  | .shutDown _ => true
  | _ => false

/-- The fault that an answer of the stream makes. -/
def Exchange.fault? : Exchange → Option Fault
  | .writeFailed op cause => some (.of op cause)
  | .wrote op [] => some (.of op .nothingWritten)
  | .flushed op (some cause) => some (.of op cause)
  | .readFailed cause => some (.of .receive cause)
  | _ => none

/-! ## Forms of a send -/

/-- An exchange that ends a send for a cause, `rest` being the bytes that were not yet accepted. -/
inductive Exchange.Breaks (op : Operation) : Bytes → Cause → Exchange → Prop where
  | write {rest : Bytes} (cause : Cause) (more : rest ≠ []) :
      Breaks op rest cause (.writeFailed op cause)
  /-- A write that accepts nothing counts as failed. -/
  | refusal {rest : Bytes} (more : rest ≠ []) : Breaks op rest .nothingWritten (.wrote op [])
  | flush (cause : Cause) : Breaks op [] cause (.flushed op (some cause))

theorem Exchange.Breaks.fault {op : Operation} {rest : Bytes} {cause : Cause} {failure : Exchange}
    (breaks : failure.Breaks op rest cause) : failure.fault? = some (.of op cause) := by
  cases breaks <;> rfl

theorem Exchange.Breaks.isShutDown {op : Operation} {rest : Bytes} {cause : Cause}
    {failure : Exchange} (breaks : failure.Breaks op rest cause) : failure.isShutDown = false := by
  cases breaks <;> rfl

namespace Transport

/-- What a send of a payload can come to, and the exchanges on the way. -/
inductive Sent (op : Operation) : Bytes → Progress → List Exchange → Prop where
  | flushed : Sent op [] .done [.flushed op none]
  | held {rest : Bytes} (more : rest ≠ []) : Sent op rest (.pending rest) []
  | broken {rest : Bytes} {cause : Cause} {failure : Exchange}
      (breaks : failure.Breaks op rest cause) : Sent op rest (.failed (.of op cause)) [failure]
  | piece {piece rest : Bytes} {progress : Progress} {exchanges : List Exchange}
      (filled : piece ≠ []) (sent : Sent op rest progress exchanges) :
      Sent op (piece ++ rest) progress (.wrote op piece :: exchanges)

/-- The front of a payload, all but a rest, in the pieces in which the stream accepted it. -/
structure Accepted (payload rest : Bytes) where
  pieces : List Bytes
  filled : [] ∉ pieces
  whole : pieces.flatten ++ rest = payload

namespace Accepted

variable {payload rest left : Bytes}

def nothing (payload : Bytes) : Accepted payload payload := ⟨[], by simp, rfl⟩

def cons (piece : Bytes) (filled : piece ≠ []) (later : Accepted payload rest) :
    Accepted (piece ++ payload) rest where
  pieces := piece :: later.pieces
  filled := by simp [Ne.symm filled, later.filled]
  whole := by rw [List.flatten_cons, List.append_assoc, later.whole]

def append (front : Accepted payload rest) (later : Accepted rest left) : Accepted payload left where
  pieces := front.pieces ++ later.pieces
  filled := by simp [front.filled, later.filled]
  whole := by rw [List.flatten_append, List.append_assoc, later.whole, front.whole]

def exchanges (op : Operation) (accepted : Accepted payload rest) : List Exchange :=
  accepted.pieces.map (.wrote op)

end Accepted

namespace Sent

variable {op : Operation} {payload : Bytes} {exchanges : List Exchange}

theorem done_accepted (sent : Sent op payload .done exchanges) :
    ∃ accepted : Accepted payload [], exchanges = accepted.exchanges op ++ [.flushed op none] := by
  generalize reached : Progress.done = progress at sent
  induction sent with
  | flushed => exact ⟨.nothing [], rfl⟩
  | held | broken => cases reached
  | @piece piece _ _ _ filled _ inductionHypothesis =>
    obtain ⟨later, rfl⟩ := inductionHypothesis reached
    exact ⟨later.cons piece filled, rfl⟩

theorem pending_accepted {left : Bytes} (sent : Sent op payload (.pending left) exchanges) :
    ∃ accepted : Accepted payload left, exchanges = accepted.exchanges op := by
  generalize reached : Progress.pending left = progress at sent
  induction sent with
  | flushed | broken => cases reached
  | held => cases reached; exact ⟨.nothing left, rfl⟩
  | @piece piece _ _ _ filled _ inductionHypothesis =>
    obtain ⟨later, rfl⟩ := inductionHypothesis reached
    exact ⟨later.cons piece filled, rfl⟩

theorem failed_accepted {fault : Fault} (sent : Sent op payload (.failed fault) exchanges) :
    ∃ (rest : Bytes) (accepted : Accepted payload rest) (cause : Cause) (failure : Exchange),
      fault = .of op cause ∧ failure.Breaks op rest cause ∧
        exchanges = accepted.exchanges op ++ [failure] := by
  generalize reached : Progress.failed fault = progress at sent
  induction sent with
  | flushed | held => cases reached
  | @broken rest cause failure breaks =>
    cases reached
    exact ⟨rest, .nothing rest, cause, failure, rfl, breaks, rfl⟩
  | @piece piece _ _ _ filled _ inductionHypothesis =>
    obtain ⟨rest, later, cause, failure, same, breaks, rfl⟩ := inductionHypothesis reached
    exact ⟨rest, later.cons piece filled, cause, failure, same, breaks, rfl⟩

theorem no_shutDown {progress : Progress} (sent : Sent op payload progress exchanges) :
    ∀ exchange ∈ exchanges, exchange.isShutDown = false := by
  induction sent with
  | flushed => simp [Exchange.isShutDown]
  | held => simp
  | broken breaks => simpa using breaks.isShutDown
  | piece _ _ inductionHypothesis => simpa [Exchange.isShutDown] using inductionHypothesis

theorem exists_fault {fault : Fault} (sent : Sent op payload (.failed fault) exchanges) :
    ∃ exchange ∈ exchanges, exchange.fault? = some fault := by
  obtain ⟨rest, accepted, cause, failure, rfl, breaks, rfl⟩ := sent.failed_accepted
  exact ⟨failure, by simp, breaks.fault⟩

end Sent

end Transport

/-! ## The stream behind a send -/

/-- A write moves nothing but the allowance of a failure to come. -/
theorem Stream.write_frame (s : Stream) (offered : Bytes) :
    ∃ failure, (s.write offered).2 = { s with writeFailure := failure } := by
  unfold Stream.write
  split
  · exact ⟨s.writeFailure, rfl⟩
  · exact ⟨s.writeFailure, rfl⟩
  · exact ⟨_, rfl⟩
  · exact ⟨s.writeFailure, rfl⟩

namespace Transport

theorem writePieces_frame (op : Operation) (pieces : Nat) (s : Stream) (payload : Bytes) :
    ∃ failure, (writePieces op pieces s payload).stream = { s with writeFailure := failure } := by
  induction pieces generalizing s payload with
  | zero => cases payload <;> exact ⟨s.writeFailure, rfl⟩
  -- only a write that accepts bytes goes on, and then with a new allowance
  | succ pieces inductionHypothesis =>
    cases payload with
    | nil => exact ⟨s.writeFailure, rfl⟩
    | cons b payload =>
      obtain ⟨failure, frame⟩ := s.write_frame (b :: payload)
      unfold writePieces
      split <;> rename_i answered <;> rw [answered] at frame <;> simp only at frame <;> subst frame
      · exact ⟨failure, rfl⟩
      · exact ⟨failure, rfl⟩
      · exact ⟨failure, rfl⟩
      · exact inductionHypothesis { s with writeFailure := failure } _

@[simp] theorem flushAfter_stream (op : Operation) (written : Sending) :
    (flushAfter op written).stream = written.stream := by
  unfold flushAfter
  split
  · split <;> rfl
  · rfl

/-- A flush looks at nothing but whether flushes fail. -/
theorem flushAfter_withStream (op : Operation) (written : Sending) {stream : Stream}
    (same : stream.flushFailure = written.stream.flushFailure) :
    flushAfter op { written with stream } = { flushAfter op written with stream } := by
  unfold flushAfter
  dsimp only
  rw [same]
  split
  · split <;> rfl
  · rfl

theorem flushAfter_cons (op : Operation) (exchange : Exchange) (written : Sending) :
    flushAfter op { written with exchanges := exchange :: written.exchanges } =
      { flushAfter op written with
        exchanges := exchange :: (flushAfter op written).exchanges } := by
  unfold flushAfter
  dsimp only
  split
  · split <;> rfl
  · rfl

theorem flushAfter_nothing_sent (op : Operation) (s : Stream) :
    Sent op [] (flushAfter op ⟨.done, s, []⟩).progress (flushAfter op ⟨.done, s, []⟩).exchanges := by
  unfold flushAfter
  dsimp only
  split
  · exact .flushed
  · exact .broken (.flush _)

/-- Writing with room for as many pieces as there are bytes, then flushing, is a send. -/
theorem flushAfter_writePieces_sent (op : Operation) (pieces : Nat) (s : Stream) (payload : Bytes)
    (enough : payload.length ≤ pieces) :
    Sent op payload (flushAfter op (writePieces op pieces s payload)).progress
      (flushAfter op (writePieces op pieces s payload)).exchanges := by
  induction pieces generalizing s payload with
  | zero =>
    obtain rfl : payload = [] := List.eq_nil_of_length_eq_zero (by omega)
    exact flushAfter_nothing_sent op s
  | succ pieces inductionHypothesis =>
    cases payload with
    | nil => exact flushAfter_nothing_sent op s
    | cons b payload =>
      unfold writePieces
      split
      · exact .held (by simp)
      · exact .broken (.write _ (by simp))
      · exact .broken (.refusal (by simp))
      · rename_i n later _
        rw [flushAfter_cons]
        -- what was accepted is not empty, so the room for pieces still suffices
        have smaller : ((b :: payload).drop (n + 1)).length ≤ pieces := by
          simp only [List.length_drop, List.length_cons] at enough ⊢
          omega
        have filled : (b :: payload).take (n + 1) ≠ [] := by simp
        have sent := Sent.piece filled (inductionHypothesis later _ smaller)
        rwa [List.take_append_drop] at sent

variable {t : Transport}

theorem send_sent (isOpen : t.closed = false) (op : Operation) (payload : Bytes) :
    Sent op payload (t.send op payload).1 (t.send op payload).2.2 := by
  simp only [send, isOpen, Bool.false_eq_true, if_false]
  exact flushAfter_writePieces_sent op payload.length t.stream payload (Nat.le_refl _)

theorem send_stream (isOpen : t.closed = false) (op : Operation) (payload : Bytes) :
    ∃ failure, (t.send op payload).2.1 =
      { t with stream := { t.stream with writeFailure := failure } } := by
  obtain ⟨failure, frame⟩ := writePieces_frame op payload.length t.stream payload
  refine ⟨failure, ?_⟩
  simp only [send, isOpen, Bool.false_eq_true, if_false, flushAfter_stream, writeAll, frame]

end Transport

/-! ## Changes that a send does not notice -/

/-- A change of streams that makes no difference to writes and flushes. -/
structure Stream.Unnoticed (change : Stream → Stream) : Prop where
  writes (s : Stream) (offered : Bytes) :
    (change s).write offered = ((s.write offered).1, change (s.write offered).2)
  flushes (s : Stream) : (change s).flushFailure = s.flushFailure

namespace Transport

variable {change : Stream → Stream}

theorem writePieces_unnoticed (unnoticed : Stream.Unnoticed change) (op : Operation) (pieces : Nat)
    (s : Stream) (payload : Bytes) :
    writePieces op pieces (change s) payload =
      { writePieces op pieces s payload with
        stream := change (writePieces op pieces s payload).stream } := by
  induction pieces generalizing s payload with
  | zero => cases payload <;> rfl
  | succ pieces inductionHypothesis =>
    cases payload with
    | nil => rfl
    | cons b payload =>
      simp only [writePieces, unnoticed.writes]
      generalize s.write (b :: payload) = answered
      obtain ⟨answer, later⟩ := answered
      match answer with
      | .pending | .failed _ | .accepted 0 => rfl
      | .accepted (n + 1) =>
        dsimp only
        rw [inductionHypothesis]

theorem send_unnoticed (unnoticed : Stream.Unnoticed change) (t : Transport) (op : Operation)
    (payload : Bytes) :
    { t with stream := change t.stream }.send op payload =
      ((t.send op payload).1,
        { (t.send op payload).2.1 with stream := change (t.send op payload).2.1.stream },
        (t.send op payload).2.2) := by
  unfold send
  cases closed : t.closed with
  | true => simp [closed]
  | false =>
    simp only [writeAll, writePieces_unnoticed unnoticed,
      flushAfter_withStream _ _ (unnoticed.flushes _), flushAfter_stream, Bool.false_eq_true,
      if_false]

end Transport

/-! ## A receive -/

theorem Stream.read_of_arrived {s : Stream} (arrived : s.inbound ≠ []) (room : Nat) :
    s.read room = (.bytes (s.inbound.take (s.readRoom room)),
      { s with inbound := s.inbound.drop (s.readRoom room) }) := by
  unfold Stream.read
  split <;> simp_all

theorem Stream.readRoom_le (s : Stream) (room : Nat) : s.readRoom room ≤ room := by
  unfold Stream.readRoom
  split
  · exact Nat.le_refl _
  · exact Nat.min_le_right _ _

namespace Transport

variable {t : Transport}

/-- What a receive of at most `room` bytes can come to, the stream behind it, and its exchange. -/
inductive Received (s : Stream) (room : Nat) : Receipt → Stream → List Exchange → Prop where
  | nothing (empty : s.inbound = []) (healthy : s.readFailure = none) (awaited : s.ended = false) :
      Received s room .pending s []
  | failed {cause : Cause} (empty : s.inbound = []) (broken : s.readFailure = some cause) :
      Received s room (.failed (.of .receive cause)) s [.readFailed cause]
  | endOfInput (empty : s.inbound = []) (healthy : s.readFailure = none) (ended : s.ended = true) :
      Received s room (.bytes []) s [.read []]
  | chunk {taken left : Bytes} (arrived : s.inbound ≠ [])
      (front : taken = s.inbound.take (s.readRoom room))
      (back : left = s.inbound.drop (s.readRoom room)) :
      Received s room (.bytes taken) { s with inbound := left } [.read taken]

namespace Received

variable {s stream : Stream} {room : Nat} {chunk : Bytes} {exchanges : List Exchange}

theorem no_shutDown {receipt : Receipt} (received : Received s room receipt stream exchanges) :
    ∀ exchange ∈ exchanges, exchange.isShutDown = false := by
  cases received <;> simp [Exchange.isShutDown]

theorem split (received : Received s room (.bytes chunk) stream exchanges) :
    chunk ++ stream.inbound = s.inbound := by
  cases received with
  | endOfInput => rfl
  | chunk arrived front back => rw [front, back, List.take_append_drop]

theorem readLimit (received : Received s room (.bytes chunk) stream exchanges) :
    stream.readLimit = s.readLimit := by
  cases received <;> rfl

theorem length_le (received : Received s room (.bytes chunk) stream exchanges) :
    chunk.length ≤ room := by
  cases received with
  | endOfInput => exact Nat.zero_le _
  | chunk arrived front back =>
    have bounded := s.readRoom_le room
    rw [front, List.length_take]
    omega

theorem failed_drained {fault : Fault} (received : Received s room (.failed fault) stream exchanges) :
    s.inbound = [] := by
  cases received with
  | failed empty => exact empty

theorem failed_broken {fault : Fault} (received : Received s room (.failed fault) stream exchanges) :
    s.readFailure ≠ none := by
  cases received with
  | failed _ broken => simp [broken]

/-- A read returns no bytes only if nothing waits or there is no room for a byte. -/
theorem drained (received : Received s room (.bytes []) stream exchanges) (spacious : 0 < room)
    (limit : s.readLimit ≠ some 0) : s.inbound = [] := by
  cases received with
  | endOfInput empty => exact empty
  | chunk arrived front back =>
    -- an empty front of something can only come from an empty room
    obtain no | empty := List.take_eq_nil_iff.mp front.symm
    · exfalso
      unfold Stream.readRoom at no
      split at no
      · omega
      · rename_i limited
        rw [limited, ne_eq, Option.some.injEq] at limit
        omega
    · exact empty

end Received

theorem receive_received (isOpen : t.closed = false) (room : Nat) :
    ∃ stream, Received t.stream room (t.receive room).1 stream (t.receive room).2.2 ∧
      (t.receive room).2.1 = { t with stream } := by
  cases arrived : t.stream.inbound with
  | nil =>
    cases failing : t.stream.readFailure with
    | some cause =>
      refine ⟨t.stream, ?_, ?_⟩ <;>
        simp only [receive, isOpen, Stream.read, arrived, failing, Bool.false_eq_true, if_false]
      exact .failed arrived failing
    | none =>
      cases ending : t.stream.ended <;> refine ⟨t.stream, ?_, ?_⟩ <;>
        simp only [receive, isOpen, Stream.read, arrived, failing, ending, Bool.false_eq_true,
          if_false]
      · exact .nothing arrived failing ending
      · exact .endOfInput arrived failing ending
  | cons =>
    have waiting : t.stream.inbound ≠ [] := by simp [arrived]
    refine ⟨{ t.stream with inbound := t.stream.inbound.drop (t.stream.readRoom room) }, ?_, ?_⟩ <;>
      simp only [receive, isOpen, Stream.read_of_arrived waiting, Bool.false_eq_true, if_false]
    exact .chunk waiting rfl rfl

end Transport

end Lifeline
