import Lifeline.Proofs.Session.Arrivals
import Lifeline.Proofs.Session.Sends

/-! # How what arrives is cut into reads

A read takes all that waits, or as much of it as it has room for.  What waits is therefore read in
portions, and how it is divided is settled when it has arrived: nothing that a session does between
two reads touches what waits or the room (`Stage.Turn.intake_or_receives`), so the reads that were
made and the portions that are left are the same chunks at every moment, until more arrives
(`follow_portions`).
-/

namespace Lifeline

/-! ## Portions -/

/-- Bytes in portions that fill the room they are given, except for the last one, which may be
    smaller.  There is room for at least one byte. -/
def portions (room : Nat) : Bytes → List Bytes
  | [] => []
  | b :: rest => (b :: rest.take (room - 1)) :: portions room (rest.drop (room - 1))
termination_by bytes => bytes.length
decreasing_by simp only [List.length_drop, List.length_cons]; omega

section

variable {room : Nat} {bytes : Bytes}

@[simp] theorem portions_nil (room : Nat) : portions room [] = [] := by rw [portions]

theorem portions_eq (spacious : 0 < room) (filled : bytes ≠ []) :
    portions room bytes = bytes.take room :: portions room (bytes.drop room) := by
  obtain ⟨room, rfl⟩ := Nat.exists_eq_succ_of_ne_zero (Nat.ne_of_gt spacious)
  cases bytes with
  | nil => exact absurd rfl filled
  | cons b rest => rw [portions, Nat.succ_sub_one, List.take_succ_cons, List.drop_succ_cons]

/-- What fits into the room is a portion as it is. -/
theorem portions_of_fits (filled : bytes ≠ []) (fits : bytes.length ≤ room) :
    portions room bytes = [bytes] := by
  have spacious : 0 < room := Nat.lt_of_lt_of_le (List.length_pos_iff.mpr filled) fits
  rw [portions_eq spacious filled, List.take_of_length_le fits, List.drop_of_length_le fits,
    portions_nil]

theorem flatten_portions (room : Nat) (bytes : Bytes) : (portions room bytes).flatten = bytes := by
  fun_induction portions room bytes with
  | case1 => rfl
  | case2 b rest inductionHypothesis =>
    rw [List.flatten_cons, inductionHypothesis, List.cons_append, List.take_append_drop]

theorem length_le_of_mem_portions (spacious : 0 < room) {portion : Bytes}
    (member : portion ∈ portions room bytes) : portion.length ≤ room := by
  fun_induction portions room bytes with
  | case1 => cases member
  | case2 b rest inductionHypothesis =>
    obtain rfl | later := List.mem_cons.mp member
    · simp only [List.length_cons, List.length_take]
      omega
    · exact inductionHypothesis later

end

/-! ## Reads that brought something -/

/-- Whether it brings bytes, or changes how many of them a read takes. -/
def Occurrence.feeds : Occurrence → Bool
  | .act (.stream (.arrive bytes)) => !bytes.isEmpty
  | .act (.stream (.limitReads _)) => true
  | _ => false

namespace World

variable {w v : World}

/-- What was read, without the empty read that tells the end of input. -/
def chunks (w : World) : List Bytes := w.reads.filter (· ≠ [])

/-- How many bytes a read can bring. -/
def readRoom (w : World) : Nat :=
  w.session.transport.stream.readRoom w.session.buffer.length

/-- What is still to be read, in the portions that it will be read in. -/
def unread (w : World) : List Bytes := portions w.readRoom w.session.transport.stream.inbound

theorem readRoom_of_intake (same : v.intake = w.intake) : v.readRoom = w.readRoom := by
  simp only [intake, Prod.mk.injEq] at same
  simp only [readRoom, Stream.readRoom, same]

theorem unread_of_intake (same : v.intake = w.intake) : v.unread = w.unread := by
  have room := readRoom_of_intake same
  simp only [intake, Prod.mk.injEq] at same
  rw [unread, room, same.1, unread]

theorem readRoom_pos (room : 0 < w.session.buffer.length)
    (unlimited : w.session.transport.stream.readLimit ≠ some 0) : 0 < w.readRoom := by
  rw [readRoom, Stream.readRoom]
  split
  · exact room
  · rename_i limit limited
    rw [limited, ne_eq, Option.some.injEq] at unlimited
    omega

theorem intake_finish (w : World) (outcome : Outcome) : (w.finish outcome).intake = w.intake := by
  unfold finish closeTransport Transport.close
  dsimp only
  split <;> rfl

theorem reads_finish (isOpen : w.session.transport.closed = false) (outcome : Outcome) :
    (w.finish outcome).reads = w.reads :=
  (reads_more (happenings_finish isOpen outcome)).trans (List.append_nil _)

theorem reads_emit (w : World) (event : Event) : (w.emit event).reads = w.reads :=
  (reads_more (w.happenings_emit event)).trans (List.append_nil _)

theorem reads_afterSend (w : World) {op : Operation} {payload : Bytes}
    {progress : Transport.Progress} {exchanges : List Exchange}
    (sent : Transport.Sent op payload progress exchanges) (failure : Option (Cause × Nat)) :
    (w.afterSend failure exchanges).reads = w.reads := by
  rw [reads_more (happenings_afterSend w failure exchanges), sent.no_read.1, List.append_nil]

end World

open World
open Stage (Turn)

variable {s t : Stage} {w v : World}

/-- A turn makes a read, or it touches neither what was read nor what waits. -/
theorem Stage.Turn.intake_or_receives (isOpen : w.session.transport.closed = false)
    (turn : Turn s w t v) :
    (v.reads = w.reads ∧ v.intake = w.intake) ∨ ∃ outcome, Receives w outcome v := by
  cases turn with
  | read receives => exact .inr ⟨_, receives⟩
  | begin => exact .inl ⟨(reads_more (happenings_enter ..)).trans (List.append_nil _), rfl⟩
  | wait | takeLine | takeClose | takeNothing | noRead | hide | rest | sendProbe | sendLine
  | noLine => exact .inl ⟨rfl, rfl⟩
  | skip | display => exact .inl ⟨reads_emit .., rfl⟩
  | stop | interrupt | close | readFailed =>
    exact .inl ⟨reads_finish isOpen _, intake_finish ..⟩
  | quit =>
    exact .inl ⟨(reads_finish (w := w.emit .farewell) isOpen _).trans (reads_emit ..),
      intake_finish ..⟩
  | inputOver =>
    exact .inl ⟨(reads_finish (w := w.emit .peerClosed) isOpen _).trans (reads_emit ..),
      intake_finish ..⟩
  | @lineSent _ text _ _ failure exchanges sent =>
    exact .inl ⟨(reads_emit ..).trans (reads_afterSend w sent failure), rfl⟩
  | lineHeld sent | probeHeld sent | probeSent sent =>
    exact .inl ⟨reads_afterSend w sent _, rfl⟩
  | @lineFailed _ _ _ _ failure exchanges _ sent =>
    exact .inl ⟨(reads_finish (w := w.afterSend failure exchanges) isOpen _).trans
      (reads_afterSend w sent failure), intake_finish ..⟩
  | @probeFailed _ _ _ failure exchanges _ sent =>
    exact .inl ⟨(reads_finish (w := w.afterSend failure exchanges) isOpen _).trans
      (reads_afterSend w sent failure), intake_finish ..⟩

namespace World

/-- A read takes the first of the portions that wait, if there is one. -/
theorem Receives.portioned {outcome : Option ReadOutcome} (receives : Receives w outcome v)
    (spacious : 0 < w.readRoom) :
    v.chunks ++ v.unread = w.chunks ++ w.unread ∧ v.readRoom = w.readRoom := by
  cases receives with
  | nothing => exact ⟨rfl, rfl⟩
  | @failed cause received =>
    have more := happenings_exchange w w.session.transport.stream [.readFailed cause]
    have reads := (reads_more more).trans (List.append_nil _)
    refine ⟨?_, rfl⟩
    rw [chunks, reads]
    rfl
  | @bytes stream chunk received =>
    have reads : (w.fill stream chunk).reads = w.reads ++ [chunk] :=
      reads_more (happenings_fill w stream chunk)
    have bounded := received.length_le
    have length : (w.fill stream chunk).session.buffer.length = w.session.buffer.length := by
      simp only [session_fill, List.length_append, List.length_drop]
      omega
    have room : (w.fill stream chunk).readRoom = w.readRoom := by
      rw [readRoom, length, session_fill, readRoom, Stream.readRoom, Stream.readRoom,
        received.readLimit]
    refine ⟨?_, room⟩
    rw [unread, room, session_fill, chunks, reads, List.filter_append]
    cases received with
    | endOfInput empty => simp [chunks, unread, empty]
    | chunk arrived front back =>
      have taken : chunk = w.session.transport.stream.inbound.take w.readRoom := front
      have filled : chunk ≠ [] := by
        rw [taken, ne_eq, List.take_eq_nil_iff]
        exact not_or.mpr ⟨Nat.ne_of_gt spacious, arrived⟩
      have kept : [chunk].filter (· ≠ []) = [chunk] := by simp [filled]
      rw [kept, unread, portions_eq spacious arrived, back, List.append_assoc, taken]
      rfl

/-- The rule for what happens outside: it brings nothing and leaves the limit of a read. -/
theorem Meets.intake {occurrence : Occurrence} (meets : w.Meets occurrence v)
    (still : occurrence.feeds = false) : v.reads = w.reads ∧ v.intake = w.intake := by
  cases meets with
  | stream change =>
    cases change with
    | arrive bytes =>
      have empty : bytes = [] := by simpa [Occurrence.feeds] using still
      refine ⟨rfl, ?_⟩
      simp only [World.intake, withStream, Stream.change, empty, List.append_nil]
    | limitReads limit => cases still
    | _ => exact ⟨rfl, rfl⟩
  | queued => exact ⟨(reads_more (happenings_enqueue ..)).trans (List.append_nil _), rfl⟩
  | refused | closeInput | pass | request => exact ⟨rfl, rfl⟩

/-- The reads that were made and the portions that are left stay the same chunks until something
    arrives or the limit of a read is changed. -/
theorem follow_portions (sane : Sane w.stage w) (spacious : 0 < w.readRoom)
    {course : List Occurrence} (still : ∀ occurrence ∈ course, occurrence.feeds = false) :
    (w.follow course).chunks ++ (w.follow course).unread = w.chunks ++ w.unread ∧
      (w.follow course).readRoom = w.readRoom := by
  have kept {x y : World} (reads : y.reads = x.reads) (intake : y.intake = x.intake) :
      y.chunks ++ y.unread = x.chunks ++ x.unread ∧ y.readRoom = x.readRoom := by
    rw [chunks, reads, unread_of_intake intake, chunks]
    exact ⟨rfl, readRoom_of_intake intake⟩
  let I (_ : Stage) (x : World) : Prop :=
    x.chunks ++ x.unread = w.chunks ++ w.unread ∧ x.readRoom = w.readRoom
  refine follow_keeps_while (I := I) (P := fun _ occurrence => occurrence.feeds = false)
    ?_ ?_ sane ⟨rfl, rfl⟩ (.of_forall fun occurrence member _ => still occurrence member)
  · intro s t x y isOpen turn holds
    obtain ⟨reads, intake⟩ | ⟨outcome, receives⟩ := turn.intake_or_receives isOpen
    · have same := kept reads intake
      exact ⟨same.1.trans holds.1, same.2.trans holds.2⟩
    · have same := receives.portioned (holds.2 ▸ spacious)
      exact ⟨same.1.trans holds.1, same.2.trans holds.2⟩
  · intro x occurrence _ meets quiet holds
    obtain ⟨reads, intake⟩ := meets.intake quiet
    have same := kept reads intake
    exact ⟨same.1.trans holds.1, same.2.trans holds.2⟩

theorem chunks_follow (sane : Sane w.stage w) (course : List Occurrence) :
    w.chunks <+: (w.follow course).chunks := by
  obtain ⟨records, grown⟩ := history_follow sane course
  refine ⟨((records.map (·.what)).filterMap Happening.read?).filter (· ≠ []), ?_⟩
  rw [chunks, chunks, reads, reads, World.happenings, World.happenings, ← grown, List.map_append,
    List.filterMap_append, List.filter_append]

/-- Bytes that arrive by themselves are read in portions of the size of the buffer, if no limit is set:
    those that have been read and those that are left. -/
theorem follow_arrival (sane : Sane w.stage w) (spacious : 0 < w.session.buffer.length)
    (drained : w.session.transport.stream.inbound = [])
    (unlimited : w.session.transport.stream.readLimit = none) (bytes : Bytes)
    {course : List Occurrence} (still : ∀ occurrence ∈ course, occurrence.feeds = false) :
    let v := (w.after (.act (.stream (.arrive bytes)))).follow course
    ∃ own, v.chunks = w.chunks ++ own ∧
      own ++ portions w.session.buffer.length v.session.transport.stream.inbound =
        portions w.session.buffer.length bytes := by
  intro v
  let fed := w.after (.act (.stream (.arrive bytes)))
  have saneFed : Sane fed.stage fed := sane.after _
  have room : fed.readRoom = w.session.buffer.length := by
    show w.session.transport.stream.readRoom w.session.buffer.length = _
    rw [Stream.readRoom, unlimited]
  have arrived : fed.unread = portions w.session.buffer.length bytes := by
    rw [unread, room]
    show portions _ (w.session.transport.stream.inbound ++ bytes) = _
    rw [drained, List.nil_append]
  obtain ⟨balance, sameRoom⟩ := follow_portions saneFed (room ▸ spacious) still
  obtain ⟨own, read⟩ := chunks_follow saneFed course
  refine ⟨own, read.symm, ?_⟩
  rw [← read, arrived, List.append_assoc, List.append_cancel_left_eq, unread, sameRoom, room]
    at balance
  exact balance

end World

end Lifeline
