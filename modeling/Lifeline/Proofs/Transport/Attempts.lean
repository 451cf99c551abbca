import Lifeline.Proofs.Transport.Exchanges

/-! # Attempts to send

A send that finds the stream blocked is taken up again later with the rest of its payload, and the
stream may have changed by then.  `Transport.attempt` is the whole of it, through any number of
pauses.

The stream accepts the payload piece by piece, and then one last answer of it decides what comes of
the attempt: `Transport.Ends` says which answer leads to what.  `attempt_attempted` shows that every
attempt over an open connection is of this form, so it delivers all of its payload or tells the
stream's own error.
-/

namespace Lifeline

/-! ## Writes that accept nothing -/

theorem Stream.blocked_of_write {s later : Stream} {offered : Bytes}
    (answered : s.write offered = (.pending, later)) : s.blocked = true := by
  unfold Stream.write at answered
  split at answered <;> simp_all

/-- A write that accepts no byte leaves the stream as it is. -/
theorem Stream.write_idle {s later : Stream} {offered : Bytes} {answer : WriteAnswer}
    (answered : s.write offered = (answer, later)) (idle : ∀ n, answer ≠ .accepted (n + 1)) :
    later = s := by
  unfold Stream.write at answered
  split at answered
  · exact (congrArg Prod.snd answered).symm
  · exact (congrArg Prod.snd answered).symm
  · rename_i cause allowance _ failing
    obtain ⟨rfl, rfl⟩ := Prod.mk.inj answered
    -- no byte was accepted, so the allowance is the same
    obtain nothing | ⟨n, some⟩ : s.writeRoom offered.length = 0 ∨
        ∃ n, s.writeRoom offered.length = n + 1 := by
      cases s.writeRoom offered.length <;> simp
    · rw [nothing, Nat.sub_zero, ← failing]
    · exact absurd (congrArg WriteAnswer.accepted some) (idle n)
  · exact (congrArg Prod.snd answered).symm

/-- A write may use up an allowance, but the cause of the failure to come stays the same. -/
theorem Stream.write_cause (s : Stream) (offered : Bytes) :
    (s.write offered).2.writeFailure.map Prod.fst = s.writeFailure.map Prod.fst := by
  unfold Stream.write
  split <;> simp_all

namespace Transport

theorem writePieces_cause (op : Operation) (pieces : Nat) (s : Stream) (payload : Bytes) :
    (writePieces op pieces s payload).stream.writeFailure.map Prod.fst =
      s.writeFailure.map Prod.fst := by
  induction pieces generalizing s payload with
  | zero => cases payload <;> rfl
  | succ pieces inductionHypothesis =>
    cases payload with
    | nil => rfl
    | cons b payload =>
      have same := s.write_cause (b :: payload)
      unfold writePieces
      split <;> rename_i answered <;> rw [answered] at same
      · exact same
      · exact same
      · exact same
      · exact (inductionHypothesis _ _).trans same

/-! ## The end of an attempt -/

/-- What comes of an attempt by the last answer of the stream, the rest not being accepted, and the
    exchanges that this adds. -/
inductive Ends (op : Operation) (s : Stream) : Bytes → Progress → List Exchange → Prop where
  | flushed (sound : s.flushFailure = none) : Ends op s [] .done [.flushed op none]
  | flushFailed {cause : Cause} (failing : s.flushFailure = some cause) :
      Ends op s [] (.failed (.of op cause)) [.flushed op (some cause)]
  | writeFailed {rest : Bytes} {cause : Cause} (more : rest ≠ [])
      (failing : (s.write rest).1 = .failed cause) :
      Ends op s rest (.failed (.of op cause)) [.writeFailed op cause]
  | refused {rest : Bytes} (more : rest ≠ []) (nothing : (s.write rest).1 = .accepted 0) :
      Ends op s rest (.failed (.of op .nothingWritten)) [.wrote op []]
  | held {rest : Bytes} (more : rest ≠ []) (blocked : s.blocked = true) :
      Ends op s rest (.pending rest) []

/-- The stream accepted the front of a payload in pieces, and then the attempt ended. -/
def Attempted (op : Operation) (payload : Bytes) (sent : Sending) : Prop :=
  ∃ (rest : Bytes) (accepted : Accepted payload rest) (ending : List Exchange),
    sent.exchanges = accepted.exchanges op ++ ending ∧ Ends op sent.stream rest sent.progress ending

variable {op : Operation} {payload rest : Bytes} {sent : Sending}

theorem Ends.attempted {s : Stream} {progress : Progress} {ending : List Exchange}
    (ends : Ends op s payload progress ending) : Attempted op payload ⟨progress, s, ending⟩ :=
  ⟨payload, .nothing payload, ending, rfl, ends⟩

/-- What was accepted before an attempt is part of a longer one. -/
theorem Attempted.extend (front : Accepted payload rest) (attempted : Attempted op rest sent) :
    Attempted op payload { sent with exchanges := front.exchanges op ++ sent.exchanges } := by
  obtain ⟨left, accepted, ending, exchanges, ends⟩ := attempted
  refine ⟨left, front.append accepted, ending, ?_, ends⟩
  rw [exchanges, ← List.append_assoc]
  simp [Accepted.exchanges, Accepted.append]

theorem Attempted.piece {piece : Bytes} (filled : piece ≠ []) (attempted : Attempted op rest sent) :
    Attempted op (piece ++ rest) { sent with exchanges := .wrote op piece :: sent.exchanges } :=
  attempted.extend ((Accepted.nothing rest).cons piece filled)

/-! ## One send -/

theorem flushAfter_nothing_attempted (op : Operation) (s : Stream) :
    Attempted op [] (flushAfter op ⟨.done, s, []⟩) := by
  unfold flushAfter
  dsimp only
  split
  · rename_i sound
    exact Ends.attempted (.flushed sound)
  · rename_i cause failing
    exact Ends.attempted (.flushFailed failing)

theorem flushAfter_writePieces_attempted (op : Operation) (pieces : Nat) (s : Stream)
    (payload : Bytes) (enough : payload.length ≤ pieces) :
    Attempted op payload (flushAfter op (writePieces op pieces s payload)) := by
  induction pieces generalizing s payload with
  | zero =>
    obtain rfl : payload = [] := List.eq_nil_of_length_eq_zero (by omega)
    exact flushAfter_nothing_attempted op s
  | succ pieces inductionHypothesis =>
    cases payload with
    | nil => exact flushAfter_nothing_attempted op s
    | cons b payload =>
      unfold writePieces
      split <;> rename_i later answered
      · obtain rfl := Stream.write_idle answered nofun
        exact Ends.attempted (.held (by simp) (Stream.blocked_of_write answered))
      · obtain rfl := Stream.write_idle answered nofun
        exact Ends.attempted (.writeFailed (by simp) (congrArg Prod.fst answered))
      · obtain rfl := Stream.write_idle answered nofun
        exact Ends.attempted (.refused (by simp) (congrArg Prod.fst answered))
      · rename_i n
        rw [flushAfter_cons]
        -- what was accepted is not empty, so the room for pieces still suffices
        have smaller : ((b :: payload).drop (n + 1)).length ≤ pieces := by
          simp only [List.length_drop, List.length_cons] at enough ⊢
          omega
        have filled : (b :: payload).take (n + 1) ≠ [] := by simp
        have attempted := (inductionHypothesis later _ smaller).piece filled
        rwa [List.take_append_drop] at attempted

variable {t : Transport}

/-- What a send comes to, with the stream behind it. -/
def sending (t : Transport) (op : Operation) (payload : Bytes) : Sending :=
  let (progress, after, exchanges) := t.send op payload
  ⟨progress, after.stream, exchanges⟩

theorem sending_attempted (isOpen : t.closed = false) (op : Operation) (payload : Bytes) :
    Attempted op payload (t.sending op payload) := by
  have attempted := flushAfter_writePieces_attempted op _ t.stream payload (Nat.le_refl _)
  simpa only [sending, send, writeAll, isOpen, Bool.false_eq_true, if_false] using attempted

/-- The stream behind a send is the same but for an allowance that may be used up. -/
theorem sending_stream (isOpen : t.closed = false) (op : Operation) (payload : Bytes) :
    ∃ failure, failure.map Prod.fst = t.stream.writeFailure.map Prod.fst ∧
      (t.sending op payload).stream = { t.stream with writeFailure := failure } := by
  obtain ⟨failure, frame⟩ := writePieces_frame op payload.length t.stream payload
  have same := writePieces_cause op payload.length t.stream payload
  rw [frame] at same
  refine ⟨failure, same, ?_⟩
  simp only [sending, send, isOpen, Bool.false_eq_true, if_false, flushAfter_stream, writeAll, frame]

/-! ## A send with pauses -/

/-- An attempt to send over an open connection.  Each time its write is pending it pauses, while the
    stream changes, and is then taken up with the rest. -/
def attempt (op : Operation) (s : Stream) (payload : Bytes) :
    (pauses : List (List Stream.Change)) → Sending
  | [] => sending { stream := s } op payload
  | changes :: pauses =>
    let first := sending { stream := s } op payload
    match first.progress with
    | .pending rest =>
      let later := attempt op (changes.foldl Stream.change first.stream) rest pauses
      { later with exchanges := first.exchanges ++ later.exchanges }
    | .done | .failed _ => first

theorem attempt_attempted (op : Operation) (s : Stream) (payload : Bytes)
    (pauses : List (List Stream.Change)) : Attempted op payload (attempt op s payload pauses) := by
  induction pauses generalizing s payload with
  | nil => exact sending_attempted rfl op payload
  | cons changes pauses inductionHypothesis =>
    have first := sending_attempted (t := { stream := s }) rfl op payload
    unfold attempt
    dsimp only
    split
    · rename_i rest held
      obtain ⟨left, accepted, ending, exchanges, ends⟩ := first
      rw [held] at ends
      cases ends
      rw [exchanges, List.append_nil]
      exact (inductionHypothesis _ rest).extend accepted
    · exact first
    · exact first

namespace Ends

variable {s : Stream} {progress : Progress} {ending : List Exchange}

/-- Only an attempt that is done ends with a flush that succeeded. -/
theorem done_iff (ends : Ends op s rest progress ending) :
    progress = .done ↔ .flushed op none ∈ ending := by
  cases ends <;> simp

theorem eq_of_done (ends : Ends op s rest .done ending) :
    rest = [] ∧ ending = [.flushed op none] := by
  cases ends
  exact ⟨rfl, rfl⟩

/-- Behind an accepted payload there is a flush, whatever comes of it. -/
theorem exists_flushed (ends : Ends op s [] progress ending) :
    ∃ failure, ending = [.flushed op failure] := by
  cases ends with
  | flushed => exact ⟨none, rfl⟩
  | @flushFailed cause => exact ⟨some cause, rfl⟩
  | writeFailed more | refused more | held more => exact absurd rfl more

end Ends

/-- An attempt to send over an open connection delivers all of its payload or tells the stream's own
    error, whatever the stream does and however often it holds a write up.  The stream accepts the
    payload, all but a rest, in pieces that are not empty, and `Ends` says what its last answer
    leads to: no flush follows a failed write, and nothing is tried again.  The attempt is done
    exactly if the pieces are the payload and the one flush behind them succeeded; it is left
    pending only by a stream that is blocked; and an empty payload is flushed without a write.
    Without pauses the attempt is a single send, and no answer is due to anything but the stream
    that was given. -/
theorem attempt_delivers_or_fails (op : Operation) (s : Stream) (payload : Bytes)
    (pauses : List (List Stream.Change)) :
    let sent := attempt op s payload pauses
    (∃ (pieces : List Bytes) (rest : Bytes) (ending : List Exchange),
      [] ∉ pieces ∧ pieces.flatten ++ rest = payload ∧
      sent.exchanges = pieces.map (.wrote op) ++ ending ∧
      Ends op sent.stream rest sent.progress ending) ∧
    (sent.progress = .done ↔ ∃ pieces : List Bytes,
      sent.exchanges = pieces.map (.wrote op) ++ [.flushed op none] ∧ pieces.flatten = payload) ∧
    (sent.stream.blocked = false → ∀ rest, sent.progress ≠ .pending rest) ∧
    (payload = [] → ∃ failure, sent.exchanges = [.flushed op failure]) ∧
    attempt op s payload [] = sending { stream := s } op payload ∧
    ∃ failure, failure.map Prod.fst = s.writeFailure.map Prod.fst ∧
      (attempt op s payload []).stream = { s with writeFailure := failure } := by
  intro sent
  obtain ⟨rest, accepted, ending, exchanges, ends⟩ : Attempted op payload sent :=
    attempt_attempted op s payload pauses
  refine ⟨⟨accepted.pieces, rest, ending, accepted.filled, accepted.whole, exchanges, ends⟩, ?_, ?_,
    ?_, rfl, sending_stream (t := { stream := s }) rfl op payload⟩
  · constructor
    · intro done
      rw [done] at ends
      obtain ⟨rfl, rfl⟩ := ends.eq_of_done
      have whole := accepted.whole
      rw [List.append_nil] at whole
      exact ⟨accepted.pieces, exchanges, whole⟩
    -- an accepted piece is no flush, so the flush is among the last exchanges
    · rintro ⟨pieces, shape, -⟩
      have flushed : .flushed op none ∈ sent.exchanges := by simp [shape]
      rw [exchanges, Accepted.exchanges] at flushed
      exact ends.done_iff.mpr (by simpa using flushed)
  · intro free left held
    rw [held] at ends
    cases ends with
    | held _ blocked => simp [free] at blocked
  · rintro rfl
    obtain ⟨empty, rfl⟩ := List.append_eq_nil_iff.mp accepted.whole
    have none : accepted.pieces = [] := by
      refine List.eq_nil_iff_forall_not_mem.mpr fun piece member => accepted.filled ?_
      exact List.flatten_eq_nil_iff.mp empty piece member ▸ member
    rw [exchanges, Accepted.exchanges, none]
    exact ends.exists_flushed

/-- An allowance that is used up by the last byte does no harm: nothing is written after it. -/
example :
    let s : Stream := { writeLimit := some 2, writeFailure := some (.bare .brokenPipe, 3) }
    (attempt .send s [1, 2, 3] []).progress = .done ∧
      (attempt .send s [1, 2, 3, 4] []).exchanges =
        [.wrote .send [1, 2], .wrote .send [3], .writeFailed .send (.bare .brokenPipe)] := by
  decide

end Transport

end Lifeline
