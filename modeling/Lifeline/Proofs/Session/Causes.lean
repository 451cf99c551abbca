import Lifeline.Proofs.Session.Course
import Lifeline.Proofs.Transport.Attempts

/-! # What the stream answers

The outside decides how a stream answers: whether it refuses, and with which causes its writes,
flushes, reads and the shutdown fail.  `Stream.Answers` says which exchanges it can come to as it
stands.  A session only takes bytes from the stream and uses allowances up, so `Answers` stays the
same while it moves, and all that a move asks is answered as the stream stood when it began
(`Faithful`).  Every exchange of a session is therefore the answer of its own stream, as that stood
at some moment of the course (`follow_answers`).
-/

namespace Lifeline

open Transport (Accepted Attempted Ends)

/-! ## Answers of a stream -/

def Stream.Answers (s : Stream) : Exchange → Prop
  | .wrote _ bytes => bytes = [] → s.refusing = true ∨ s.writeLimit = some 0
  | .writeFailed _ cause => s.writeFailure.map Prod.fst = some cause
  | .flushed _ failure => failure = s.flushFailure
  | .read _ => True
  | .readFailed cause => s.readFailure = some cause
  | .shutDown failure => failure = s.shutdownFailure

namespace Stream

variable {s : Stream} {offered : Bytes}

theorem cause_of_write {cause : Cause} (failed : (s.write offered).1 = .failed cause) :
    s.writeFailure.map Prod.fst = some cause := by
  unfold write at failed
  split at failed <;> simp_all

theorem refuses_of_writeRoom {count : Nat} (some : count ≠ 0)
    (allowed : ∀ cause, s.writeFailure ≠ .some (cause, 0)) (full : s.writeRoom count = 0) :
    s.refusing = true ∨ s.writeLimit = .some 0 := by
  unfold writeRoom at full
  cases refusing : s.refusing with
  | true => exact .inl rfl
  | false =>
    rw [refusing, if_neg Bool.false_ne_true] at full
    cases limited : s.writeLimit <;> cases failing : s.writeFailure <;>
      simp only [limited, failing] at full allowed <;> grind

theorem refuses_of_write (more : offered ≠ []) (nothing : (s.write offered).1 = .accepted 0) :
    s.refusing = true ∨ s.writeLimit = some 0 := by
  have length : offered.length ≠ 0 := by simpa using more
  unfold write at nothing
  split at nothing
  · cases nothing
  · cases nothing
  · rename_i allowance left _ failing
    refine refuses_of_writeRoom length ?_ (by simpa using nothing)
    simpa [failing] using left
  · rename_i sound
    exact refuses_of_writeRoom length (by simp [sound]) (by simpa using nothing)

/-- An allowance that is used up changes no cause. -/
theorem answers_writeFailure {failure : Option (Cause × Nat)}
    (same : failure.map Prod.fst = s.writeFailure.map Prod.fst) :
    { s with writeFailure := failure }.Answers = s.Answers := by
  funext exchange
  cases exchange <;> simp only [Answers, same]

end Stream

theorem Transport.Ends.answers {op : Operation} {s : Stream} {rest : Bytes}
    {progress : Transport.Progress} {ending : List Exchange} (ends : Ends op s rest progress ending) :
    ∀ exchange ∈ ending, s.Answers exchange := by
  cases ends with
  | flushed sound => simpa [Stream.Answers] using sound.symm
  | flushFailed failing => simpa [Stream.Answers] using failing.symm
  | writeFailed _ failing => simpa [Stream.Answers] using Stream.cause_of_write failing
  | refused more nothing => simpa [Stream.Answers] using Stream.refuses_of_write more nothing
  | held => nofun

theorem Transport.Attempted.answers {op : Operation} {payload : Bytes} {sent : Transport.Sending}
    (attempted : Attempted op payload sent) : ∀ exchange ∈ sent.exchanges,
      sent.stream.Answers exchange := by
  obtain ⟨rest, accepted, ending, exchanges, ends⟩ := attempted
  rw [exchanges]
  intro exchange member
  obtain front | last := List.mem_append.mp member
  · obtain ⟨piece, taken, rfl⟩ := List.mem_map.mp front
    exact fun empty => absurd (empty ▸ taken) accepted.filled
  · exact ends.answers exchange last

namespace Transport

variable (t : Transport)

theorem send_answers (op : Operation) (payload : Bytes) :
    (t.send op payload).2.1.stream.Answers = t.stream.Answers ∧
      ∀ exchange ∈ (t.send op payload).2.2, t.stream.Answers exchange := by
  cases isOpen : t.closed with
  | true => simp [send, isOpen]
  | false =>
    obtain ⟨failure, same, after⟩ := sending_stream isOpen op payload
    have manner := Stream.answers_writeFailure same
    rw [← after] at manner
    exact ⟨manner, manner ▸ (sending_attempted isOpen op payload).answers⟩

theorem receive_answers (room : Nat) :
    (t.receive room).2.1.stream.Answers = t.stream.Answers ∧
      ∀ exchange ∈ (t.receive room).2.2, t.stream.Answers exchange := by
  cases isOpen : t.closed with
  | true => simp [receive, isOpen]
  | false =>
    obtain ⟨stream, received, after⟩ := receive_received isOpen room
    rw [after]
    generalize (t.receive room).1 = receipt, (t.receive room).2.2 = exchanges at received
    cases received with
    | nothing => exact ⟨rfl, List.forall_mem_nil _⟩
    | failed empty broken => simpa [Stream.Answers] using broken
    | endOfInput | chunk => exact ⟨rfl, by simp [Stream.Answers]⟩

theorem close_answers :
    t.close.1.stream = t.stream ∧ ∀ exchange ∈ t.close.2, t.stream.Answers exchange := by
  cases isOpen : t.closed <;> simp [close, isOpen, Stream.Answers]

end Transport

/-! ## Moves over one stream -/

namespace World

/-- All that is asked of the stream between two worlds is answered as it stands in the first, and
    in the second it answers no other way. -/
structure Faithful (w v : World) : Prop where
  manner : v.session.transport.stream.Answers = w.session.transport.stream.Answers
  answered : ∃ new, v.happenings = w.happenings ++ new ∧
    ∀ exchange, .exchanged exchange ∈ new → w.session.transport.stream.Answers exchange

variable {w v x : World}

namespace Faithful

theorem trans (first : Faithful w v) (later : Faithful v x) : Faithful w x := by
  obtain ⟨manner, new, more, answered⟩ := first
  obtain ⟨manner', new', more', answered'⟩ := later
  refine ⟨manner'.trans manner, new ++ new', ?_, ?_⟩
  · rw [more', more, List.append_assoc]
  · intro exchange member
    obtain old | added := List.mem_append.mp member
    · exact answered exchange old
    · exact manner ▸ answered' exchange added

/-- The stream is asked for nothing. -/
theorem quiet {new : List Happening}
    (stream : v.session.transport.stream = w.session.transport.stream)
    (more : v.happenings = w.happenings ++ new) (none : new.filterMap Happening.exchange? = []) :
    Faithful w v := by
  refine ⟨by rw [stream], new, more, fun exchange member => ?_⟩
  rw [← Happening.mem_exchanges, none] at member
  cases member

theorem same (stream : v.session.transport.stream = w.session.transport.stream)
    (happenings : v.happenings = w.happenings) : Faithful w v :=
  .quiet stream (happenings.trans (List.append_nil _).symm) rfl

theorem refl : Faithful w w := .same rfl rfl

theorem ask {transport : Transport} {exchanges : List Exchange}
    (manner : transport.stream.Answers = w.session.transport.stream.Answers)
    (answered : ∀ exchange ∈ exchanges, w.session.transport.stream.Answers exchange) :
    Faithful w ({ w with session := { w.session with transport } }.note
      (exchanges.map .exchanged)) := by
  refine ⟨manner, _, happenings_note .., fun exchange member => ?_⟩
  exact answered exchange (by simpa using member)

theorem emit (faithful : Faithful w v) (event : Event) : Faithful w (v.emit event) :=
  faithful.trans (.quiet rfl (happenings_emit ..) rfl)

theorem finish (faithful : Faithful w v) (outcome : Outcome) : Faithful w (v.finish outcome) := by
  have entered : Faithful w (v.enter outcome.state) :=
    faithful.trans (.quiet rfl (happenings_enter ..) rfl)
  obtain ⟨stream, answered⟩ := (v.enter outcome.state).session.transport.close_answers
  have closed : Faithful w (v.enter outcome.state).closeTransport :=
    entered.trans (.ask (congrArg Stream.Answers stream) answered)
  exact closed.trans (.same rfl rfl)

end Faithful

theorem faithful_send (w : World) (op : Operation) (payload : Bytes) :
    Faithful w (w.send op payload).2 := by
  obtain ⟨manner, answered⟩ := w.session.transport.send_answers op payload
  exact .ask manner answered

theorem faithful_receive (w : World) : Faithful w w.receive.2 := by
  obtain ⟨manner, answered⟩ := w.session.transport.receive_answers w.session.buffer.length
  have asked := Faithful.ask manner answered
  unfold receive
  dsimp only
  split
  · exact asked
  · exact asked
  · exact asked.trans (.same rfl rfl)

/-! ## One cycle -/

theorem faithful_sendLine (w : World) (text : String) (rest : Bytes) :
    Faithful w (w.sendLine text rest).2 := by
  have sent := w.faithful_send .send rest
  unfold sendLine
  generalize w.send .send rest = answer at sent
  obtain ⟨progress, v⟩ := answer
  cases progress with
  | done =>
    have recorded : Faithful w (v.recordSend v.now) := sent.trans (.same rfl rfl)
    exact recorded.emit _
  | pending | failed => exact sent

theorem faithful_sendProbe (w : World) (rest : Bytes) (due : Nat) :
    Faithful w (w.sendProbe rest due).2 := by
  have sent := w.faithful_send .heartbeat rest
  unfold sendProbe
  generalize w.send .heartbeat rest = answer at sent
  obtain ⟨progress, v⟩ := answer
  cases progress with
  | done => exact sent.trans (.same rfl rfl)
  | pending | failed => exact sent

theorem Faithful.afterProbe {answer : Verdict × World} (faithful : Faithful w answer.2) (due : Nat) :
    Faithful w (World.afterProbe due answer) := by
  obtain ⟨verdict, v⟩ := answer
  cases verdict with
  | finish outcome => exact faithful.finish outcome
  | goOn | suspend => exact faithful.trans (.same rfl rfl)

theorem faithful_afterStream (w : World) : Faithful w w.afterStream := by
  unfold afterStream checkHeartbeat
  split
  · exact .afterProbe (w.faithful_sendProbe _ _) _
  · have idle : Faithful w (Verdict.goOn, w).2 := .refl
    exact idle.afterProbe _

theorem faithful_afterOperator (w : World) (read : Option ReadOutcome) :
    Faithful w (w.afterOperator read) := by
  match read with
  | none => exact w.faithful_afterStream
  | some (.error fault) => exact Faithful.refl.finish _
  | some (.ok 0) => exact (Faithful.refl.emit _).finish _
  | some (.ok (n + 1)) =>
    unfold afterOperator handleStream
    dsimp only
    split <;> rename_i handled <;> split at handled <;> cases handled
    · exact w.faithful_afterStream
    · exact (Faithful.refl.emit _).trans (faithful_afterStream _)

theorem Faithful.afterLine {answer : Verdict × World} (faithful : Faithful w answer.2)
    (text : String) (read : Option ReadOutcome) : Faithful w (World.afterLine text read answer) := by
  obtain ⟨verdict, v⟩ := answer
  cases verdict with
  | goOn => exact faithful.trans (faithful_afterOperator v read)
  | finish outcome => exact faithful.finish outcome
  | suspend => exact faithful.trans (.same rfl rfl)

theorem faithful_handleOperator (w : World) (input : Operator.Input) :
    Faithful w (w.handleOperator input).2 := by
  cases input with
  | closed => exact .refl
  | line text =>
    unfold handleOperator
    dsimp only
    split
    · exact Faithful.refl.emit _
    · split
      · exact Faithful.refl.emit _
      · exact w.faithful_sendLine text _

theorem faithful_dispatch (w : World) (ready : Readiness) : Faithful w (w.dispatch ready) := by
  unfold dispatch
  split
  · exact Faithful.refl.finish .interrupted
  · split
    · exact w.faithful_afterOperator _
    · exact (w.faithful_handleOperator _).afterLine _ _
    · exact (w.faithful_handleOperator _).afterLine _ _

theorem faithful_wake {deadline : Nat} {ready : Readiness}
    (woke : w.wake? deadline = some (ready, v)) : Faithful w v := by
  unfold wake? at woke
  split at woke
  · cases woke
    exact .refl
  · dsimp only at woke
    split at woke
    · cases woke
    · cases woke
      have taken : Faithful w { w with operator := w.operator.tryTake.2 } := .same rfl rfl
      exact taken.trans (faithful_receive _)

/-! ## Courses -/

theorem faithful_advance (advanced : w.advance? = some v) : Faithful w v := by
  unfold advance? at advanced
  split at advanced
  · cases advanced
  · cases advanced
  · split at advanced <;> cases advanced
    · exact Faithful.refl.finish _
    · exact .same rfl rfl
  · obtain ⟨⟨ready, later⟩, woke, rfl⟩ := Option.map_eq_some_iff.mp advanced
    exact (faithful_wake woke).trans (faithful_dispatch ..)
  · split at advanced <;> cases advanced
    exact .afterLine (w.faithful_sendLine _ _) _ _
  · split at advanced <;> cases advanced
    exact .afterProbe (w.faithful_sendProbe _ _) _

/-- What is asked of the stream by one occurrence is answered as it stood before. -/
theorem answers_after (w : World) (occurrence : Occurrence) {exchange : Exchange}
    (asked : exchange ∈ (w.after occurrence).exchanges) :
    exchange ∈ w.exchanges ∨ w.session.transport.stream.Answers exchange := by
  cases occurrence with
  | act act =>
    refine .inl ?_
    have meets := w.apply_meets act
    change exchange ∈ (w.apply act).2.exchanges at asked
    generalize (w.apply act).2 = v at meets asked
    cases meets with
    | queued =>
      rw [exchanges_more (happenings_enqueue ..)] at asked
      simpa [Happening.exchange?] using asked
    | _ => exact asked
  | elapse => exact .inl asked
  | begin =>
    refine .inl ?_
    change exchange ∈ w.begin.exchanges at asked
    unfold World.begin at asked
    split at asked
    · change exchange ∈ (w.enter .active).exchanges at asked
      rw [exchanges_more (happenings_enter ..)] at asked
      simpa [Happening.exchange?] using asked
    · exact asked
  | move =>
    cases advanced : w.advance? with
    | none =>
      simp only [World.after, advanced, Option.getD_none] at asked
      exact .inl asked
    | some v =>
      simp only [World.after, advanced, Option.getD_some] at asked
      obtain ⟨-, new, more, answered⟩ := faithful_advance advanced
      rw [exchanges_more more] at asked
      obtain old | added := List.mem_append.mp asked
      · exact .inl old
      · exact .inr (answered exchange (Happening.mem_exchanges.mp added))

theorem answers_follow (w : World) (course : List Occurrence) {exchange : Exchange}
    (asked : exchange ∈ (w.follow course).exchanges) :
    exchange ∈ w.exchanges ∨ ∃ earlier, earlier <+: course ∧
      (w.follow earlier).session.transport.stream.Answers exchange := by
  induction course generalizing w with
  | nil => exact .inl asked
  | cons occurrence course inductionHypothesis =>
    obtain soon | ⟨earlier, front, answered⟩ := inductionHypothesis (w.after occurrence) asked
    · obtain before | now := w.answers_after occurrence soon
      · exact .inl before
      · exact .inr ⟨[], List.nil_prefix, now⟩
    · exact .inr ⟨occurrence :: earlier, (List.prefix_cons_inj occurrence).mpr front, answered⟩

end World

end Lifeline
