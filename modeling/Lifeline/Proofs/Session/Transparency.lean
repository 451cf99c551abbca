import Lifeline.Proofs.Session.Counterparts
import Lifeline.Proofs.Session.Deliveries
import Lifeline.Proofs.Session.Sends

/-! # What heartbeats change

A session is compared with the same one that sends no heartbeats.  It wakes at its intervals, the
other one at its idle polls, and each finds nothing to do then but to send a probe.  As long as no
write and no flush fails or is left pending, the histories differ in the probes alone.

The probes use up the allowance of a stream whose writes will fail, so the streams differ in what is
left of it (`Lasts`).
-/

namespace Lifeline

open World

/-! ## Allowances -/

/-- A failure of writes that comes no earlier than another one. -/
inductive Lasts : Option (Cause × Nat) → Option (Cause × Nat) → Prop where
  | never : Lasts none none
  | after (cause : Cause) {allowance allowance' : Nat} (more : allowance ≤ allowance') :
      Lasts (some (cause, allowance)) (some (cause, allowance'))

namespace Lasts

theorem refl (failure : Option (Cause × Nat)) : Lasts failure failure :=
  match failure with
  | none => .never
  | some (cause, _) => .after cause (Nat.le_refl _)

theorem trans {failure failure' failure'' : Option (Cause × Nat)} (first : Lasts failure failure')
    (second : Lasts failure' failure'') : Lasts failure failure'' := by
  cases first with
  | never => exact second
  | after cause more =>
    cases second with
    | after _ more' => exact .after cause (Nat.le_trans more more')

end Lasts

def Stream.failing (s : Stream) (failure : Option (Cause × Nat)) : Stream :=
  { s with writeFailure := failure }

/-- A write uses the allowance up. -/
theorem Stream.write_spends (s : Stream) (offered : Bytes) :
    Lasts (s.write offered).2.writeFailure s.writeFailure := by
  unfold Stream.write
  split
  · exact .refl _
  · exact .refl _
  · rename_i failing
    rw [failing]
    exact .after _ (Nat.sub_le ..)
  · exact .refl _

namespace Transport

variable {op : Operation} {pieces : Nat} {s : Stream} {payload : Bytes}

theorem writePieces_spends (op : Operation) (pieces : Nat) (s : Stream) (payload : Bytes) :
    Lasts (writePieces op pieces s payload).stream.writeFailure s.writeFailure := by
  induction pieces generalizing s payload with
  | zero => cases payload <;> exact .refl _
  | succ pieces inductionHypothesis =>
    cases payload with
    | nil => exact .refl _
    | cons b payload =>
      have spends := s.write_spends (b :: payload)
      unfold writePieces
      split <;> rename_i answered <;> rw [answered] at spends
      · exact spends
      · exact spends
      · exact spends
      · exact (inductionHypothesis _ _).trans spends

/-- A stream whose allowance is used up takes no payload. -/
theorem writePieces_spent {cause : Cause} (spent : s.writeFailure = some (cause, 0))
    (more : payload ≠ []) : (writePieces op pieces s payload).progress ≠ .done := by
  cases payload with
  | nil => exact absurd rfl more
  | cons b payload =>
    cases pieces with
    | zero => exact Progress.noConfusion
    | succ pieces =>
      unfold writePieces Stream.write
      rw [spent]
      cases s.blocked <;> simp

end Transport

/-- How many bytes a write takes at most, apart from any allowance. -/
def Stream.limited (s : Stream) (count : Nat) : Nat :=
  match s.writeLimit with
  | none => count
  | some limit => min limit count

theorem Stream.limited_le (s : Stream) (count : Nat) : s.limited count ≤ count := by
  unfold Stream.limited
  split
  · exact Nat.le_refl _
  · exact Nat.min_le_right ..

theorem Stream.writeRoom_failing (s : Stream) (cause : Cause) (allowance count : Nat) :
    (s.failing (some (cause, allowance))).writeRoom count =
      if s.refusing then 0 else min allowance (s.limited count) := rfl

theorem Stream.write_failing {s : Stream} (writable : s.blocked = false) (cause : Cause)
    (allowance : Nat) (offered : Bytes) :
    (s.failing (some (cause, allowance + 1))).write offered =
      (.accepted ((s.failing (some (cause, allowance + 1))).writeRoom offered.length),
        s.failing (some (cause, allowance + 1 -
          (s.failing (some (cause, allowance + 1))).writeRoom offered.length))) := by
  simp only [Stream.write, Stream.failing, writable]

/-- A stream whose failure comes later accepts as much, unless the allowance cut the write short. -/
theorem Stream.write_lasts {s later : Stream} {failure : Option (Cause × Nat)} {offered : Bytes}
    {n : Nat} (lasts : Lasts s.writeFailure failure)
    (accepted : s.write offered = (.accepted (n + 1), later))
    (unspent : ∀ cause, later.writeFailure = some (cause, 0) → offered.length ≤ n + 1) :
    ∃ failure', Lasts later.writeFailure failure' ∧
      (s.failing failure).write offered = (.accepted (n + 1), later.failing failure') := by
  have writable : s.blocked = false := by
    cases blocked : s.blocked with
    | false => rfl
    | true => simp [Stream.write, blocked] at accepted
  have same : s = s.failing s.writeFailure := rfl
  rw [same] at accepted
  generalize s.writeFailure = own at lasts accepted
  cases lasts with
  | never =>
    refine ⟨none, ?_, ?_⟩
    · simp only [Stream.write, Stream.failing, writable, Prod.mk.injEq] at accepted
      rw [← accepted.2]
      exact .never
    · rw [accepted]
      simp only [Stream.write, Stream.failing, writable, Prod.mk.injEq] at accepted
      rw [← accepted.2]
      rfl
  | @after cause allowance allowance' more =>
    cases allowance with
    | zero => simp [Stream.write, Stream.failing, writable] at accepted
    | succ allowance =>
      obtain ⟨left, rfl⟩ : ∃ left, allowance' = left + 1 := ⟨allowance' - 1, by omega⟩
      rw [write_failing writable] at accepted
      obtain ⟨count, rfl⟩ := Prod.mk.inj accepted
      have room := WriteAnswer.accepted.inj count
      rw [room] at unspent ⊢
      have bounded := s.limited_le offered.length
      have spent : allowance = n → offered.length ≤ n + 1 := by
        rintro rfl
        exact unspent cause (by simp [Stream.failing])
      have room' : (s.failing (some (cause, left + 1))).writeRoom offered.length = n + 1 := by
        rw [writeRoom_failing] at room ⊢
        split at room
        · cases room
        · rename_i taking
          rw [if_neg taking]
          omega
      refine ⟨some (cause, left + 1 - (n + 1)), .after cause (by omega), ?_⟩
      rw [write_failing writable, room']
      rfl

namespace Transport

variable {op : Operation} {pieces : Nat} {s : Stream} {payload : Bytes}

theorem writePieces_lasts {failure : Option (Cause × Nat)} (lasts : Lasts s.writeFailure failure)
    (done : (writePieces op pieces s payload).progress = .done) :
    ∃ failure', Lasts (writePieces op pieces s payload).stream.writeFailure failure' ∧
      writePieces op pieces (s.failing failure) payload =
        { writePieces op pieces s payload with
          stream := (writePieces op pieces s payload).stream.failing failure' } := by
  induction pieces generalizing s payload failure with
  | zero =>
    cases payload with
    | nil => exact ⟨failure, lasts, rfl⟩
    | cons => cases done
  | succ pieces inductionHypothesis =>
    cases payload with
    | nil => exact ⟨failure, lasts, rfl⟩
    | cons b payload =>
      unfold writePieces at done ⊢
      rcases answered : s.write (b :: payload) with ⟨answer, later⟩
      rw [answered] at done
      cases answer with
      | pending | failed => cases done
      | accepted count =>
        cases count with
        | zero => cases done
        | succ n =>
          dsimp only at done
          -- an allowance that is used up would not let the rest through
          have unspent (cause : Cause) (spent : later.writeFailure = some (cause, 0)) :
              (b :: payload).length ≤ n + 1 := by
            refine Nat.le_of_not_lt fun more => writePieces_spent spent (fun empty => ?_) done
            have length := congrArg List.length empty
            simp only [List.length_drop, List.length_nil] at length
            omega
          obtain ⟨left, lasts', accepted⟩ := Stream.write_lasts lasts answered unspent
          obtain ⟨failure', lasts'', same⟩ := inductionHypothesis lasts' done
          refine ⟨failure', lasts'', ?_⟩
          rw [accepted]
          dsimp only
          rw [same]

variable {t : Transport}

def failing (t : Transport) (failure : Option (Cause × Nat)) : Transport :=
  { t with stream := t.stream.failing failure }

theorem flushAfter_done {written : Sending} (done : (flushAfter op written).progress = .done) :
    written.progress = .done := by
  unfold flushAfter at done
  split at done
  · assumption
  · exact done

/-- A send that is completed is completed alike over a stream that fails later. -/
theorem send_lasts {failure : Option (Cause × Nat)} (isOpen : t.closed = false)
    (lasts : Lasts t.stream.writeFailure failure) (done : (t.send op payload).1 = .done) :
    ∃ failure', Lasts (t.send op payload).2.1.stream.writeFailure failure' ∧
      (t.failing failure).send op payload =
        (.done, (t.send op payload).2.1.failing failure', (t.send op payload).2.2) := by
  have isOpen' : (t.failing failure).closed = false := isOpen
  have stream : (t.failing failure).stream = t.stream.failing failure := rfl
  simp only [send, isOpen, isOpen', stream, Bool.false_eq_true, if_false, flushAfter_stream] at done ⊢
  obtain ⟨failure', lasts', same⟩ := writePieces_lasts lasts (flushAfter_done done)
  refine ⟨failure', lasts', ?_⟩
  have flushes (s : Stream) : (s.failing failure').flushFailure = s.flushFailure := rfl
  simp only [writeAll] at done ⊢
  rw [same, flushAfter_withStream _ _ (flushes _)]
  simp only [done]
  rfl

theorem send_spends (isOpen : t.closed = false) (op : Operation) (payload : Bytes) :
    Lasts (t.send op payload).2.1.stream.writeFailure t.stream.writeFailure := by
  simp only [send, isOpen, Bool.false_eq_true, if_false, flushAfter_stream]
  exact writePieces_spends op _ t.stream payload

/-- Reads have nothing to do with the failures of writes. -/
theorem receive_failing (t : Transport) (failure : Option (Cause × Nat)) (room : Nat) :
    (t.failing failure).receive room =
      ((t.receive room).1, (t.receive room).2.1.failing failure, (t.receive room).2.2) := by
  have reads : (t.stream.failing failure).read room =
      ((t.stream.read room).1, (t.stream.read room).2.failing failure) := by
    unfold Stream.read
    dsimp only [Stream.failing]
    split <;> rfl
  unfold receive
  cases closed : t.closed with
  | true => simp [failing, closed]
  | false =>
    simp only [failing, closed, reads, Bool.false_eq_true, if_false]
    generalize t.stream.read room = answered
    obtain ⟨answer, s⟩ := answered
    cases answer <;> rfl

end Transport

/-! ## Sessions beside silent ones -/

/-- A session, and the same without heartbeats over a stream that fails no earlier. -/
structure Session.Silenced (s s' : Session) : Prop where
  settings : s'.settings = s.settings
  buffer : s'.buffer = s.buffer
  silent : s'.clock.interval = none
  transport : ∃ failure, Lasts s.transport.stream.writeFailure failure ∧
    s'.transport = s.transport.failing failure

/-- Whether a happening is not part of a probe. -/
def Happening.isPlain (happening : Happening) : Bool := !(happening.outbound? == some .heartbeat)

theorem Session.Silenced.comparison : Comparison Happening.isPlain Session.Silenced where
  settings silenced := silenced.settings
  closed silenced := by
    obtain ⟨failure, -, transport⟩ := silenced.transport
    rw [transport]
    rfl
  blocked silenced := by
    obtain ⟨failure, -, transport⟩ := silenced.transport
    rw [transport]
    rfl
  shutdown silenced := by
    obtain ⟨failure, -, transport⟩ := silenced.transport
    rw [transport]
    rfl
  enters silenced _ := ⟨silenced.settings, silenced.buffer, silenced.silent, silenced.transport⟩
  closes silenced := by
    obtain ⟨settings, buffer, silent, failure, lasts, transport⟩ := silenced
    exact ⟨settings, buffer, silent, failure, lasts, by simp only [transport]; rfl⟩
  entered _ := rfl
  queued _ := rfl
  shutDown _ := rfl
  farewell := rfl
  skipped := rfl

/-- A session beside the same one without heartbeats. -/
abbrev Hushed : World → World → Prop := Alike Happening.isPlain Session.Silenced

/-- The sessions are at the same point. -/
abbrev Abreast : World → World → Prop := Level Happening.isPlain Session.Silenced

namespace Hushed

variable {w w' v : World}

theorem recordSend (hushed : Hushed w w') (time time' : Nat) :
    Hushed (w.recordSend time) (w'.recordSend time') := by
  obtain ⟨settings, buffer, silent, transport⟩ := hushed.session
  have compared : Session.Silenced { w.session with clock := w.session.clock.recordSend time }
      { w'.session with clock := w'.session.clock.recordSend time' } :=
    ⟨settings, buffer, silent, transport⟩
  exact hushed.adjust compared w.phase w'.phase

theorem recordSend_left (hushed : Hushed w w') (time : Nat) : Hushed (w.recordSend time) w' := by
  obtain ⟨settings, buffer, silent, transport⟩ := hushed.session
  have compared : Session.Silenced { w.session with clock := w.session.clock.recordSend time }
      w'.session := ⟨settings, buffer, silent, transport⟩
  exact hushed.adjust compared w.phase w'.phase

theorem filter (hushed : Hushed w w') : w'.session.filter = w.session.filter :=
  congrArg Prod.fst hushed.session.settings

/-- A line that is sent is sent in both sessions. -/
theorem send_line (hushed : Hushed w w') (isOpen : w.session.transport.closed = false)
    {payload : Bytes} (done : (w.session.transport.send .send payload).1 = .done) :
    ∃ failure failure' exchanges, w.send .send payload = (.done, w.afterSend failure exchanges) ∧
      w'.send .send payload = (.done, w'.afterSend failure' exchanges) ∧
      Hushed (w.afterSend failure exchanges) (w'.afterSend failure' exchanges) := by
  obtain ⟨failure, frame⟩ := Transport.send_stream isOpen .send payload
  have sent := Transport.send_sent isOpen .send payload
  obtain ⟨settings, buffer, silent, own, lasts, transport⟩ := hushed.session
  obtain ⟨failure', lasts', same⟩ := Transport.send_lasts isOpen lasts done
  refine ⟨failure, failure', (w.session.transport.send .send payload).2.2, ?_, ?_, ?_⟩
  · simp only [World.send, frame, done, afterSend, exchange]
  · simp only [World.send, transport, same, frame, afterSend, exchange]
    rfl
  · have compared : Session.Silenced
        { w.session with transport := { w.session.transport with
            stream := { w.session.transport.stream with writeFailure := failure } } }
        { w'.session with transport := { w'.session.transport with
            stream := { w'.session.transport.stream with writeFailure := failure' } } } := by
      refine ⟨settings, buffer, silent, failure', ?_, ?_⟩
      · rw [frame] at lasts'
        exact lasts'
      · simp only [transport]
        rfl
    refine (hushed.adjust compared w.phase w'.phase).note ?_
    refine List.filter_eq_self.mpr fun happening member => ?_
    obtain ⟨exchange, asked, rfl⟩ := List.mem_map.mp member
    simp [Happening.isPlain, Happening.outbound?, sent.outbound exchange asked]

/-- A probe is sent by the first session alone. -/
theorem send_probe (hushed : Hushed w w') (isOpen : w.session.transport.closed = false)
    (payload : Bytes) :
    ∃ progress failure exchanges, Transport.Sent .heartbeat payload progress exchanges ∧
      w.send .heartbeat payload = (progress, w.afterSend failure exchanges) ∧
      Hushed (w.afterSend failure exchanges) w' := by
  obtain ⟨failure, frame⟩ := Transport.send_stream isOpen .heartbeat payload
  have sent := Transport.send_sent isOpen .heartbeat payload
  have spends := Transport.send_spends isOpen .heartbeat payload
  rw [frame] at spends
  obtain ⟨settings, buffer, silent, own, lasts, transport⟩ := hushed.session
  refine ⟨_, failure, (w.session.transport.send .heartbeat payload).2.2, sent, ?_, ?_⟩
  · simp only [World.send, frame, afterSend, exchange]
  · have compared : Session.Silenced
        { w.session with transport := { w.session.transport with
            stream := { w.session.transport.stream with writeFailure := failure } } } w'.session :=
      ⟨settings, buffer, silent, own, spends.trans lasts, transport⟩
    refine Alike.note_left (hushed.adjust compared w.phase w'.phase) ?_
    refine List.filter_eq_nil_iff.mpr fun happening member => ?_
    obtain ⟨exchange, asked, rfl⟩ := List.mem_map.mp member
    simp [Happening.isPlain, Happening.outbound?, sent.outbound exchange asked]

/-- Both sessions read the same. -/
theorem receive (hushed : Hushed w w') (isOpen : w.session.transport.closed = false) :
    w'.receive.1 = w.receive.1 ∧ Hushed w.receive.2 w'.receive.2 := by
  obtain ⟨settings, buffer, silent, failure, lasts, transport⟩ := hushed.session
  obtain ⟨stream, received, frame⟩ := Transport.receive_received isOpen w.session.buffer.length
  unfold World.receive
  rw [transport, buffer, Transport.receive_failing]
  generalize w.session.transport.receive w.session.buffer.length = answer at received frame ⊢
  obtain ⟨receipt, _, exchanges⟩ := answer
  dsimp only at received frame ⊢
  subst frame
  have writes : stream.writeFailure = w.session.transport.stream.writeFailure := by
    cases received <;> rfl
  have plain : (exchanges.map Happening.exchanged).filter Happening.isPlain =
      exchanges.map Happening.exchanged := by
    cases received <;> rfl
  have compared : Session.Silenced
      { w.session with transport := { w.session.transport with stream } }
      { w'.session with transport := { w.session.transport with stream }.failing failure } :=
    ⟨settings, buffer, silent, failure, writes ▸ lasts, rfl⟩
  have noted := Alike.note (hushed.adjust compared w.phase w'.phase) plain
  cases receipt with
  | pending => exact ⟨rfl, noted⟩
  | failed fault => exact ⟨rfl, noted⟩
  | bytes chunk =>
    have filled : Session.Silenced
        { w.session with
          transport := { w.session.transport with stream }
          buffer := chunk ++ w.session.buffer.drop chunk.length }
        { w'.session with
          transport := { w.session.transport with stream }.failing failure
          buffer := chunk ++ w'.session.buffer.drop chunk.length } :=
      { compared with buffer := by simp only [buffer] }
    exact ⟨rfl, noted.adjust filled w.phase w'.phase⟩

/-! ## The same cycle -/

/-- A cycle that ends without a send that failed or is pending is back at the head of the loop, in the
    second session without having sent anything. -/
theorem afterStream_left (hushed : Hushed w w') (isOpen : w.session.transport.closed = false)
    (calm : w.afterStream.stage.isCalm = true) :
    ∃ v, Hushed v w' ∧ w.afterStream = { v with phase := .atHead } := by
  unfold World.afterStream checkHeartbeat at calm ⊢
  split at calm <;> rename_i due
  · rw [if_pos due]
    obtain ⟨progress, failure, exchanges, sent, answer, probed⟩ :=
      hushed.send_probe isOpen w.session.filter.probe
    rw [sendProbe, answer] at calm ⊢
    cases progress with
    | done => exact ⟨_, probed.recordSend_left w.now, rfl⟩
    | pending left => cases calm
    | failed fault =>
      obtain ⟨-, -, cause, -, rfl, -, -⟩ := sent.failed_accepted
      cases calm
  · rw [if_neg due]
    exact ⟨w, hushed, rfl⟩

theorem afterStream_right (hushed : Hushed w w') : w'.afterStream = { w' with phase := .atHead } := by
  have undue := Clock.not_isDue hushed.session.silent w'.now
  simp [World.afterStream, checkHeartbeat, undue, afterProbe]

theorem afterStream (hushed : Hushed w w') (isOpen : w.session.transport.closed = false)
    (calm : w.afterStream.stage.isCalm = true) : Abreast w.afterStream w'.afterStream := by
  obtain ⟨v, probed, same⟩ := hushed.afterStream_left isOpen calm
  rw [same, hushed.afterStream_right]
  exact ⟨probed.moveTo .atHead .atHead, rfl⟩

theorem afterOperator (hushed : Hushed w w') (isOpen : w.session.transport.closed = false)
    (read : Option ReadOutcome) (calm : (w.afterOperator read).stage.isCalm = true) :
    Abreast (w.afterOperator read) (w'.afterOperator read) := by
  match read with
  | none => exact hushed.afterStream isOpen calm
  | some (.error fault) => exact Beside.finish Session.Silenced.comparison hushed isOpen _
  | some (.ok 0) => exact Beside.finish Session.Silenced.comparison (hushed.emit rfl) isOpen _
  | some (.ok (n + 1)) =>
    have filter := hushed.filter
    have buffer := hushed.session.buffer
    cases hidden : w.session.filter.hides (w.session.buffer.take (n + 1)) with
    | true =>
      simp only [World.afterOperator, handleStream, filter, buffer, hidden, if_true] at calm ⊢
      exact hushed.afterStream isOpen calm
    | false =>
      simp only [World.afterOperator, handleStream, filter, buffer, hidden, Bool.false_eq_true,
        if_false] at calm ⊢
      exact Hushed.afterStream (hushed.emit rfl) isOpen calm

theorem afterLine (hushed : Hushed w w') (isOpen : w.session.transport.closed = false)
    (text : String) (rest : Bytes) (read : Option ReadOutcome)
    (calm : (World.afterLine text read (w.sendLine text rest)).stage.isCalm = true) :
    Abreast (World.afterLine text read (w.sendLine text rest))
      (World.afterLine text read (w'.sendLine text rest)) := by
  -- a line that failed or is pending is not calm, so it was sent
  have done : (w.session.transport.send .send rest).1 = .done := by
    have same : (w.send .send rest).1 = (w.session.transport.send .send rest).1 := rfl
    obtain ⟨progress, failure, exchanges, sent, answer⟩ := send_afterSend isOpen .send rest
    rw [World.sendLine, answer] at calm
    rw [← same, answer]
    cases progress with
    | done => rfl
    | pending left => cases calm
    | failed fault =>
      obtain ⟨-, -, cause, -, rfl, -, -⟩ := sent.failed_accepted
      cases calm
  obtain ⟨failure, failure', exchanges, answer, answer', sent⟩ := hushed.send_line isOpen done
  rw [World.sendLine, answer] at calm
  rw [World.sendLine, World.sendLine, answer, answer']
  have confirmed : Hushed (((w.afterSend failure exchanges).recordSend w.now).emit (.sent text))
      (((w'.afterSend failure' exchanges).recordSend w'.now).emit (.sent text)) :=
    Alike.emit (sent.recordSend w.now w'.now) rfl
  exact Hushed.afterOperator confirmed isOpen read calm

theorem dispatch (hushed : Hushed w w') (isOpen : w.session.transport.closed = false)
    (operator : Option Operator.Input) (read : Option ReadOutcome)
    (calm : (w.dispatch ⟨operator, read, false⟩).stage.isCalm = true) :
    Abreast (w.dispatch ⟨operator, read, false⟩) (w'.dispatch ⟨operator, read, false⟩) :=
  Alike.dispatch (T := fun v v' => v.stage.isCalm = true → Abreast v v') hushed
    Session.Silenced.comparison isOpen operator read read
    (fun alike isOpen outcome _ => Beside.finish Session.Silenced.comparison alike isOpen outcome)
    (fun alike isOpen => Hushed.afterOperator alike isOpen read)
    (fun text rest => hushed.afterLine isOpen text rest read) calm

/-- What comes from outside comes to both. -/
theorem apply (hushed : Hushed w w') (ending : w'.phase.isOver = w.phase.isOver) (act : Act) :
    Hushed (w.apply act).2 (w'.apply act).2 := by
  cases act with
  | stream change =>
    obtain ⟨settings, buffer, silent, failure, lasts, transport⟩ := hushed.session
    have compared : Session.Silenced
        { w.session with transport := { w.session.transport with
            stream := w.session.transport.stream.change change } }
        { w'.session with transport := { w'.session.transport with
            stream := w'.session.transport.stream.change change } } := by
      refine ⟨settings, buffer, silent, ?_⟩
      rw [transport]
      cases change with
      | failWrites cause allowance => exact ⟨some (cause, allowance), .refl _, rfl⟩
      | _ => exact ⟨failure, lasts, rfl⟩
    exact hushed.adjust compared w.phase w'.phase
  | _ => exact Alike.apply hushed Session.Silenced.comparison ending nofun

theorem applyAll (hushed : Hushed w w') (ending : w'.phase.isOver = w.phase.isOver)
    (acts : List Act) : Hushed (w.applyAll acts).2 (w'.applyAll acts).2 := by
  induction acts generalizing w w' with
  | nil => exact hushed
  | cons act acts inductionHypothesis =>
    have phase := congrArg Phase.isOver (w.phase_apply act)
    have phase' := congrArg Phase.isOver (w'.phase_apply act)
    exact inductionHypothesis (hushed.apply ending act) (phase'.trans (ending.trans phase.symm))

end Hushed

/-! ## Signals -/

/-- Whether an act is a signal to the process. -/
def Act.isSignal : Act → Bool
  | .signal _ => true
  | _ => false

namespace World

variable {s t : Stage} {w v : World}

theorem terminating_apply (w : World) {act : Act} (other : act.isSignal = false) :
    (w.apply act).2.stop.terminating = w.stop.terminating := by
  have later (time : Nat) : ({ w with now := time } : World).stop.terminating = w.stop.terminating :=
    rfl
  cases act with
  | sleep milliseconds => exact later (w.now + milliseconds * millisecond)
  | line text =>
    simp only [apply, enterLine_eq]
    split <;> rfl
  | ctrlC =>
    simp only [apply, Stop.press]
    split <;> rfl
  | signal => cases other
  | _ => rfl

theorem terminating_applyAll (w : World) {acts : List Act}
    (others : ∀ act ∈ acts, act.isSignal = false) :
    (w.applyAll acts).2.stop.terminating = w.stop.terminating :=
  applyAll_keeps (I := fun v => v.stop.terminating = w.stop.terminating)
    (fun member same => (terminating_apply _ (others _ member)).trans same) rfl

end World

/-! ## A session that sends heartbeats and one that does not -/

/-- A session with heartbeats beside the same one without. -/
structure Hushes (interval : Option Nat) (w w' : World) : Prop where
  regular : w.Regular interval
  regular' : w'.Regular none
  untold : w.stop.terminating = false
  calm : w.stage.isCalm = true
  beside : Beside Happening.isPlain Session.Silenced w w'

namespace Hushes

variable {interval : Option Nat} {w w' v : World}

/-- A wait that ends for a line or a read ends in both sessions; one that ends because the interval or
    the idle poll is over ends in the first, and nothing but a probe comes of it. -/
theorem wake (hushes : Hushes interval w w') {deadline : Nat} (waiting : w.phase = .waiting deadline)
    (calm : v.stage.isCalm = true) (advanced : w.advance? = some v) :
    ∃ n, Beside Happening.isPlain Session.Silenced v (moves n w') := by
  have isOpen : w.session.transport.closed = false := hushes.regular.sane.running advanced
  have hushed : Hushed w w' := hushes.beside.alike
  have asked : Hushed w.asked w'.asked := hushed.asked
  obtain ⟨reads, received⟩ := asked.receive isOpen
  have receives : Receives w.asked w.asked.receive.1 w.asked.receive.2 := receive_receives isOpen
  have stillOpen : w.asked.receive.2.session.transport.closed = false := receives.closed.trans isOpen
  refine hushes.beside.move_wait Session.Silenced.comparison isOpen hushes.untold waiting advanced ?_
  rintro rfl deadline' -
  refine ⟨fun _ => ?_, fun asleep => ?_⟩
  · have ready : w'.woken.1 = w.woken.1 := by simp only [World.woken, hushed.tryTake, reads]
    rw [ready]
    exact received.dispatch stillOpen w.operator.tryTake.1 w.asked.receive.1 calm
  · -- only the first session has a reason to wake, and it finds nothing
    simp only [IsRoused, not_or, Bool.not_eq_true, Option.isSome_eq_false_iff,
      Option.isNone_iff_eq_none] at asleep
    obtain ⟨noLine', noRead', -⟩ := asleep
    have ready : w.woken.1 = {} := by
      simp only [World.woken, ← hushed.tryTake, ← reads, noLine', noRead']
    have isOpen' := Alike.isOpen Session.Silenced.comparison hushed isOpen
    rw [receive_of_nothing isOpen' noLine' noRead'] at received
    rw [ready] at calm ⊢
    exact received.afterStream_left stillOpen calm

theorem move (hushes : Hushes interval w w') (calm : v.stage.isCalm = true)
    (advanced : w.advance? = some v) : ∃ n, Hushes interval v (moves n w') := by
  have isOpen : w.session.transport.closed = false := hushes.regular.sane.running advanced
  obtain ⟨n, beside⟩ : ∃ n, Beside Happening.isPlain Session.Silenced v (moves n w') := by
    have before := hushes.calm
    cases standing : w.phase with
    | created | ended => simp [advance?, standing] at advanced
    | atHead => exact hushes.beside.move_head Session.Silenced.comparison isOpen standing advanced
    | waiting deadline => exact hushes.wake standing calm advanced
    | sendingLine | sendingProbe =>
      rw [stage, standing] at before
      cases before
  refine ⟨n, hushes.regular.advance advanced, hushes.regular'.moves n, ?_, calm, beside⟩
  rw [stop_turns (advance?_turns isOpen advanced)]
  exact hushes.untold

theorem rest (hushes : Hushes interval w w') (rests : w.Rests) :
    ∃ n, Hushes interval w (moves n w') ∧ (moves n w').Rests := by
  obtain ⟨regular, regular', untold, calm, beside⟩ := hushes
  have hushed : Hushed w w' := beside.alike
  obtain ⟨n, followed, rests'⟩ := beside.rest Session.Silenced.comparison regular.sane rests
    fun deadline waiting => by
      have isOpen : w.session.transport.closed = false :=
        regular.sane.trans (by rw [stage, waiting]; rfl)
      have asleep := (wake?_eq_none_iff.mp ((rests_waiting_iff waiting).mp rests)).2
      simp only [IsRoused, not_or, Bool.not_eq_true, Option.isSome_eq_false_iff,
        Option.isNone_iff_eq_none] at asleep
      have asked : Hushed w.asked w'.asked := hushed.asked
      refine ⟨untold, (asked.receive isOpen).1.trans asleep.2.1, ?_⟩
      exact Clock.not_isDue hushed.session.silent _
  exact ⟨n, ⟨regular, regular'.moves n, untold, calm, followed⟩, rests'⟩

theorem meet (hushes : Hushes interval w w') (rests : w.Rests) {acts : List Act}
    (others : ∀ act ∈ acts, act.isSignal = false) (calm : (w.applyAll acts).2.stage.isCalm = true) :
    Hushes interval (w.applyAll acts).2 (w'.applyAll acts).2 := by
  obtain ⟨regular, regular', untold, -, beside⟩ := hushes
  have met := Hushed.applyAll beside.alike beside.isOver acts
  refine ⟨regular.applyAll acts, regular'.applyAll acts, ?_, calm, ?_⟩
  · rw [terminating_applyAll w others, untold]
  · exact beside.met rests met (w.phase_applyAll acts) (w'.phase_applyAll acts)

theorem mirrors (interval : Option Nat) :
    Run.Mirrors (Hushes interval) (fun v => v.stage.isCalm = true)
      (fun acts => ∀ act ∈ acts, act.isSignal = false) some where
  move hushes calm advanced := hushes.move calm advanced
  rest hushes rests := hushes.rest rests
  meet hushes rests _ others calm := hushes.meet rests others calm

/-- What is not recorded without heartbeats is about probes. -/
theorem history (hushes : Hushes interval w w') :
    w'.history = w.history.filter fun record => !record.isProbing :=
  hushes.beside.alike.history

end Hushes

/-! ## Scripts with and without heartbeats -/

/-- The same options without heartbeats. -/
def Options.silent (options : Options) : Options := { options with heartbeatInterval := none }

namespace Script

/-- Whether no signal comes to the process. -/
def Unsignalled (script : Script) : Prop :=
  (∀ act ∈ script.before, act.isSignal = false) ∧
    ∀ acts ∈ script.impulses, ∀ act ∈ acts, act.isSignal = false

/-- Whether no write and no flush of the run fails or is left pending. -/
def IsCalm (script : Script) (options : Options) (filter : Filter) : Prop :=
  ∀ n, (Run.next^[n] (script.run options filter)).world.stage.isCalm = true

variable {script : Script} {options : Options} {filter : Filter}

/-- The session begins beside the one without heartbeats. -/
theorem Unsignalled.hushes (unsignalled : script.Unsignalled)
    (calm : script.IsCalm options filter) :
    Hushes options.heartbeatInterval (script.run options filter).world
      (script.run options.silent filter).world := by
  have hushed : Hushed { session := .start { stream := script.stream } options filter 0 }
      { session := .start { stream := script.stream } options.silent filter 0 } :=
    ⟨rfl, rfl, rfl, ⟨rfl, rfl, rfl, _, .refl _, rfl⟩, rfl⟩
  have applied := hushed.applyAll rfl script.before
  have level := Level.begin applied Session.Silenced.comparison (World.phase_applyAll ..)
    (World.phase_applyAll ..)
  have sane := ((World.Regular.created script.stream options filter).applyAll script.before).sane
  have regular' := Run.regular_start script.stream options.silent filter script.before
    script.impulses
  refine ⟨Run.regular_start .., regular', ?_, calm 0, .level level⟩
  rw [run, Run.start, World.stop_turns (World.begin_turns sane),
    World.terminating_applyAll _ unsignalled.1]

/-- Heartbeats change nothing but what they send themselves.  If no write and no flush fails or is
    left pending, each moment of a run is also one of the run without heartbeats, with the same history
    up to the writes and flushes of the probes, and both runs end alike. -/
theorem history_without_heartbeats {interval : Nat}
    (beating : options.heartbeatInterval = some interval) (positive : 0 < interval)
    (unsignalled : script.Unsignalled)
    (calm : script.IsCalm options filter) :
    (∀ n, ∃ m, (Run.next^[m] (script.run options.silent filter)).world.history =
      (Run.next^[n] (script.run options filter)).world.history.filter
        fun record => !record.isProbing) ∧
    (script.performed options.silent filter).history =
      (script.performed options filter).history.filter (fun record => !record.isProbing) ∧
    (script.performed options.silent filter).phase.outcome? =
      (script.performed options filter).phase.outcome? := by
  have begun := unsignalled.hushes calm
  have kept (impulses : List (List Act)) : impulses.filterMap some = impulses := by simp
  refine ⟨fun n => ?_, ?_⟩
  · obtain ⟨m, hushes, -⟩ := (Hushes.mirrors _).iterate begun unsignalled.2 calm n
    rw [kept] at hushes
    exact ⟨m, hushes.history⟩
  · have lively : options.heartbeatInterval ≠ some 0 := by
      rw [beating]
      exact fun zero => absurd (Option.some.inj zero) (Nat.ne_of_gt positive)
    have lively' : options.silent.heartbeatInterval ≠ some 0 := nofun
    obtain ⟨n, performed, finished⟩ := script.exists_iterate_performed filter lively
    obtain ⟨k, performed', finished'⟩ := script.exists_iterate_performed filter lively'
    obtain ⟨m, hushes, hushedOver⟩ := (Hushes.mirrors _).finished begun unsignalled.2 calm finished
    rw [kept] at hushes hushedOver
    have unique := Run.over_unique finished' hushedOver
    rw [← performed, ← performed', unique]
    exact ⟨hushes.history, hushes.beside.outcome⟩

/-- A line and a reply between two probes, and without them. -/
theorem history_without_two_probes :
    let options : Options := ⟨some millisecond, [0], 4, "quit"⟩
    let script : Script := { steps := [.single (.sleep 1), .single (.line "hi"),
      .single (.stream (.arrive [65])), .single (.sleep 1)] }
    (script.performed options.silent (.sentinel [0])).history =
        (script.performed options (.sentinel [0])).history.filter (fun record => !record.isProbing) ∧
      (script.performed options (.sentinel [0])).history.length = 11 ∧
      (script.performed options.silent (.sentinel [0])).history.length = 7 := by
  intro options script
  have unsignalled : script.Unsignalled := ⟨nofun, by decide⟩
  have rests : (Run.next^[13] (script.run options (.sentinel [0]))).world.advance? = none := by
    decide
  have finished : (Run.next^[13] (script.run options (.sentinel [0]))).IsOver := ⟨rests, by decide⟩
  have calm : script.IsCalm options (.sentinel [0]) :=
    Run.forall_iterate (P := fun w => w.stage.isCalm = true) finished (by decide)
  have positive : 0 < millisecond := by decide
  obtain ⟨-, same, -⟩ := history_without_heartbeats rfl positive unsignalled calm
  exact ⟨same, by decide, by decide⟩

end Script

end Lifeline
