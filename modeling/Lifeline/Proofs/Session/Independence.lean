import Lifeline.Proofs.Session.Counterparts
import Lifeline.Proofs.Session.Sends

/-! # What the peer sends and what is written to it

A session is compared with one that hears nothing: its stream is `Stream.deaf`, and its script is the
`outline` of the first one's, without all that arrives.  Bytes that arrive wake the first session more
often, but at whole milliseconds the deadline of a wait has passed exactly if a probe is due
(`Clock.deadline_le_iff`), so a cycle that the second session does not make sends nothing.

Two scripts that differ in what arrives have the same outline, and so the same log of outputs.
-/

namespace Lifeline

open World

/-! ## Deaf streams -/

def Stream.deaf (s : Stream) : Stream := { s with inbound := [], readLimit := none }

def Transport.deaf (t : Transport) : Transport := { t with stream := t.stream.deaf }

theorem Stream.unnoticed_deaf : Unnoticed Stream.deaf where
  writes s offered := by
    unfold Stream.write
    dsimp only [Stream.deaf]
    split <;> rfl
  flushes _ := rfl

theorem Transport.send_deaf (t : Transport) (op : Operation) (payload : Bytes) :
    t.deaf.send op payload =
      ((t.send op payload).1, (t.send op payload).2.1.deaf, (t.send op payload).2.2) :=
  send_unnoticed Stream.unnoticed_deaf t op payload

/-! ## Sessions beside deaf ones -/

/-- A session, and the same over the deaf stream.  What was read is in the buffer of the first. -/
structure Session.Deaf (s s' : Session) : Prop where
  transport : s'.transport = s.transport.deaf
  settings : s'.settings = s.settings
  clock : s'.clock = s.clock

/-- Whether a happening is no part of what comes in. -/
def Happening.isOwn : Happening → Bool
  | .exchanged (.read _) | .shown (.received _) => false
  | _ => true

theorem Session.Deaf.comparison : Comparison Happening.isOwn Session.Deaf where
  settings deaf := deaf.settings
  closed deaf := by rw [deaf.transport]; rfl
  blocked deaf := by rw [deaf.transport]; rfl
  shutdown deaf := by rw [deaf.transport]; rfl
  enters deaf _ := ⟨deaf.transport, deaf.settings, deaf.clock⟩
  closes deaf := ⟨by simp only [deaf.transport]; rfl, deaf.settings, deaf.clock⟩
  entered _ := rfl
  queued _ := rfl
  shutDown _ := rfl
  farewell := rfl
  skipped := rfl

/-- A session beside the same one over a deaf stream. -/
abbrev Deafened : World → World → Prop := Alike Happening.isOwn Session.Deaf

/-- The sessions are at the same point, up to the read in hand. -/
abbrev Unison : World → World → Prop := Level Happening.isOwn Session.Deaf

namespace Deafened

variable {w w' : World}

theorem recordSend (deafened : Deafened w w') (time : Nat) :
    Deafened (w.recordSend time) (w'.recordSend time) := by
  obtain ⟨transport, settings, clock⟩ := deafened.session
  have compared : Session.Deaf { w.session with clock := w.session.clock.recordSend time }
      { w'.session with clock := w'.session.clock.recordSend time } :=
    ⟨transport, settings, by rw [clock]⟩
  exact deafened.adjust compared w.phase w'.phase

/-- Both streams answer a send alike. -/
theorem send (deafened : Deafened w w') (isOpen : w.session.transport.closed = false)
    (op : Operation) (payload : Bytes) :
    ∃ progress failure exchanges, w.send op payload = (progress, w.afterSend failure exchanges) ∧
      w'.send op payload = (progress, w'.afterSend failure exchanges) ∧
      Deafened (w.afterSend failure exchanges) (w'.afterSend failure exchanges) := by
  obtain ⟨failure, frame⟩ := Transport.send_stream isOpen op payload
  have sent := Transport.send_sent isOpen op payload
  have transport := deafened.session.transport
  refine ⟨(w.session.transport.send op payload).1, failure,
    (w.session.transport.send op payload).2.2, ?_, ?_, ?_⟩
  · simp only [World.send, frame, afterSend, exchange]
  · simp only [World.send, transport, Transport.send_deaf, frame, afterSend, exchange]
    rfl
  · have compared : Session.Deaf
        { w.session with transport := { w.session.transport with
            stream := { w.session.transport.stream with writeFailure := failure } } }
        { w'.session with transport := { w'.session.transport with
            stream := { w'.session.transport.stream with writeFailure := failure } } } := by
      refine ⟨?_, deafened.session.settings, deafened.session.clock⟩
      simp only [transport]
      rfl
    refine (deafened.adjust compared w.phase w'.phase).note ?_
    refine List.filter_eq_self.mpr fun happening member => ?_
    obtain ⟨exchange, asked, rfl⟩ := List.mem_map.mp member
    have outbound := sent.outbound exchange asked
    cases exchange <;> first | rfl | cases outbound

theorem filter (deafened : Deafened w w') : w'.session.filter = w.session.filter :=
  congrArg Prod.fst deafened.session.settings

theorem isDue (deafened : Deafened w w') (time : Nat) :
    w'.session.clock.isDue time = w.session.clock.isDue time := by rw [deafened.session.clock]

/-! ## The same cycle -/

theorem afterProbe (deafened : Deafened w w') (isOpen : w.session.transport.closed = false)
    (rest : Bytes) (due : Nat) :
    Unison (World.afterProbe due (w.sendProbe rest due))
      (World.afterProbe due (w'.sendProbe rest due)) := by
  obtain ⟨progress, failure, exchanges, answer, answer', sent⟩ := deafened.send isOpen .heartbeat rest
  rw [sendProbe, sendProbe, answer, answer']
  cases progress with
  | done => exact ⟨(sent.recordSend due).moveTo .atHead .atHead, rfl⟩
  | pending left => exact ⟨sent.moveTo (.sendingProbe left due) (.sendingProbe left due), rfl⟩
  | failed fault => exact Beside.finish Session.Deaf.comparison sent isOpen (.fault fault)

theorem afterStream (deafened : Deafened w w') (isOpen : w.session.transport.closed = false) :
    Unison w.afterStream w'.afterStream := by
  unfold World.afterStream checkHeartbeat
  rw [deafened.isDue, deafened.now, deafened.filter]
  split
  · exact deafened.afterProbe isOpen _ _
  · exact ⟨deafened.moveTo .atHead .atHead, rfl⟩

/-- What was read is shown at most. -/
theorem afterOperator_eq (deafened : Deafened w w') {read : Option ReadOutcome}
    (filled : ∀ outcome ∈ read, ∃ n, outcome = .ok (n + 1)) :
    ∃ v, Deafened v w' ∧ v.session = w.session ∧ v.now = w.now ∧
      w.afterOperator read = v.afterStream := by
  match read with
  | none => exact ⟨w, deafened, rfl, rfl, rfl⟩
  | some outcome =>
    obtain ⟨n, rfl⟩ := filled outcome rfl
    cases hidden : w.session.filter.hides (w.session.buffer.take (n + 1)) with
    | true => exact ⟨w, deafened, rfl, rfl, by simp [World.afterOperator, handleStream, hidden]⟩
    | false =>
      let shown := w.emit (.received (Text.decodeLossy (w.session.buffer.take (n + 1))))
      exact ⟨shown, deafened.note_left rfl, rfl, rfl,
        by simp [World.afterOperator, handleStream, hidden, shown]⟩

theorem afterOperator (deafened : Deafened w w') (isOpen : w.session.transport.closed = false)
    {read : Option ReadOutcome} (filled : ∀ outcome ∈ read, ∃ n, outcome = .ok (n + 1)) :
    Unison (w.afterOperator read) (w'.afterOperator none) := by
  obtain ⟨v, shown, session, -, same⟩ := deafened.afterOperator_eq filled
  rw [same]
  exact shown.afterStream (by rw [session, isOpen])

theorem afterLine (deafened : Deafened w w') (isOpen : w.session.transport.closed = false)
    (text : String) (rest : Bytes) {read : Option ReadOutcome}
    (filled : ∀ outcome ∈ read, ∃ n, outcome = .ok (n + 1)) :
    Unison (World.afterLine text read (w.sendLine text rest))
      (World.afterLine text none (w'.sendLine text rest)) := by
  obtain ⟨progress, failure, exchanges, answer, answer', sent⟩ := deafened.send isOpen .send rest
  have now : w'.now = w.now := deafened.now
  rw [World.sendLine, World.sendLine, answer, answer']
  cases progress with
  | done =>
    have confirmed : Deafened (((w.afterSend failure exchanges).recordSend w.now).emit (.sent text))
        (((w'.afterSend failure exchanges).recordSend w'.now).emit (.sent text)) := by
      rw [now]
      exact (sent.recordSend w.now).emit rfl
    exact confirmed.afterOperator isOpen filled
  | pending left =>
    exact ⟨sent.moveTo (.sendingLine text left read) (.sendingLine text left none), rfl⟩
  | failed fault => exact Beside.finish Session.Deaf.comparison sent isOpen (.fault fault)

end Deafened

/-! ## An unbroken input -/

namespace Act

/-- Whether an act is about what arrives alone. -/
def isInbound : Act → Bool
  | .stream (.arrive _) | .stream (.limitReads _) => true
  | _ => false

/-- Whether an act ends or breaks the input, lets reads look like its end, or is a signal. -/
def breaks : Act → Bool
  | .stream .endInput | .stream (.failReads _) | .stream (.limitReads 0) | .signal _ => true
  | _ => false

end Act

/-- Reads neither fail nor end, and each brings a byte at least. -/
def Stream.Unbroken (s : Stream) : Prop :=
  s.readFailure = none ∧ s.ended = false ∧ s.readLimit ≠ some 0

theorem Stream.Unbroken.change {s : Stream} (unbroken : s.Unbroken) {change : Stream.Change}
    (calm : (Act.stream change).breaks = false) : (s.change change).Unbroken := by
  obtain ⟨healthy, awaited, limited⟩ := unbroken
  cases change with
  | endInput | failReads => cases calm
  | limitReads limit =>
    refine ⟨healthy, awaited, fun zero => ?_⟩
    obtain rfl : limit = 0 := Option.some.inj zero
    cases calm
  | _ => exact ⟨healthy, awaited, limited⟩

/-- Nothing but bytes has come in, and no signal. -/
structure Unbroken (s : Stage) (w : World) : Prop where
  stream : w.session.transport.stream.Unbroken
  untold : w.stop.terminating = false
  spacious : w.session.buffer ≠ []
  filled : ∀ outcome ∈ s.read?, ∃ n, outcome = .ok (n + 1)

namespace Unbroken

variable {s t : Stage} {w v : World} {interval : Option Nat}

theorem created {stream : Stream} (unbroken : stream.Unbroken) (options : Options) (filter : Filter) :
    Unbroken .created { session := .start { stream } options filter 0 } := by
  refine ⟨unbroken, rfl, fun empty => ?_, nofun⟩
  have size := congrArg List.length empty
  simp only [Session.start, List.length_replicate, List.length_nil] at size
  omega

/-- A read brings bytes or nothing. -/
theorem receives (unbroken : Unbroken s w) {read : Option ReadOutcome}
    (receives : Receives w read v) :
    v.session.transport.stream.Unbroken ∧ v.stop = w.stop ∧ v.session.buffer ≠ [] ∧
      ∀ outcome ∈ read, ∃ n, outcome = .ok (n + 1) := by
  obtain ⟨healthy, awaited, limited⟩ := unbroken.stream
  have room : 0 < w.session.buffer.length := List.length_pos_iff.mpr unbroken.spacious
  cases receives with
  | nothing => exact ⟨unbroken.stream, rfl, unbroken.spacious, nofun⟩
  | failed received => exact absurd healthy received.failed_broken
  | @bytes stream chunk received =>
    have taken : chunk ≠ [] := by
      rintro rfl
      have drained := received.drained room limited
      cases received with
      | endOfInput _ _ ended => simp [awaited] at ended
      | chunk arrived => exact arrived drained
    have frame : stream.Unbroken := by
      cases received with
      | endOfInput => exact unbroken.stream
      | chunk => exact ⟨healthy, awaited, limited⟩
    refine ⟨frame, rfl, by simp [taken], ?_⟩
    rintro _ ⟨⟩
    obtain ⟨n, count⟩ := Nat.exists_eq_succ_of_ne_zero (mt List.eq_nil_of_length_eq_zero taken)
    exact ⟨n, congrArg Except.ok count⟩

/-- The reading side of the stream is left alone, and no other read is to be handled. -/
theorem keep (unbroken : Unbroken s w)
    (healthy : v.session.transport.stream.readFailure = w.session.transport.stream.readFailure)
    (awaited : v.session.transport.stream.ended = w.session.transport.stream.ended)
    (limited : v.session.transport.stream.readLimit = w.session.transport.stream.readLimit)
    (untold : v.stop.terminating = w.stop.terminating)
    (spacious : v.session.buffer = w.session.buffer)
    (filled : ∀ outcome ∈ t.read?, outcome ∈ s.read?) : Unbroken t v := by
  obtain ⟨isHealthy, isAwaited, isLimited⟩ := unbroken.stream
  refine ⟨⟨healthy.trans isHealthy, awaited.trans isAwaited, limited ▸ isLimited⟩,
    untold.trans unbroken.untold, spacious ▸ unbroken.spacious, fun outcome member => ?_⟩
  exact unbroken.filled outcome (filled outcome member)

theorem finish (unbroken : Unbroken s w) (isOpen : w.session.transport.closed = false)
    (outcome : Outcome) : Unbroken (.ended outcome) (w.finish outcome) := by
  have session := session_finish isOpen outcome
  refine unbroken.keep ?_ ?_ ?_ rfl ?_ (by simp [Stage.read?]) <;> rw [session] <;> rfl

theorem afterSend (unbroken : Unbroken s w) (failure : Option (Cause × Nat))
    (exchanges : List Exchange) : Unbroken s (w.afterSend failure exchanges) :=
  unbroken.keep rfl rfl rfl rfl rfl fun _ same => same

theorem emit (unbroken : Unbroken s w) (event : Event) : Unbroken s (w.emit event) :=
  unbroken.keep rfl rfl rfl rfl rfl fun _ same => same

theorem turn (isOpen : w.session.transport.closed = false) (turn : Stage.Turn s w t v)
    (unbroken : Unbroken s w) : Unbroken t v := by
  cases turn with
  | read receives =>
    obtain ⟨stream, stop, spacious, filled⟩ := unbroken.receives receives
    exact ⟨stream, stop ▸ unbroken.untold, spacious, filled⟩
  | skip | sendLine | noLine | lineHeld | lineSent =>
    exact unbroken.keep rfl rfl rfl rfl rfl fun _ same => same
  | stop | interrupt | close | readFailed => exact unbroken.finish isOpen _
  | @lineFailed _ _ _ _ failure exchanges =>
    exact (unbroken.afterSend failure exchanges).finish isOpen _
  | @probeFailed _ _ _ failure exchanges =>
    exact (unbroken.afterSend failure exchanges).finish isOpen _
  | quit => exact (unbroken.emit .farewell).finish isOpen _
  | inputOver => exact (unbroken.emit .peerClosed).finish isOpen _
  | _ => exact unbroken.keep rfl rfl rfl rfl rfl (by simp [Stage.read?])

theorem later (unbroken : Unbroken s w) (time : Nat) : Unbroken s { w with now := time } :=
  unbroken.keep rfl rfl rfl rfl rfl fun _ same => same

theorem advance (unbroken : Unbroken w.stage w) (sane : Sane w.stage w)
    (advanced : w.advance? = some v) : Unbroken v.stage v :=
  (advance?_turns (sane.running advanced) advanced).keeps Unbroken.turn unbroken

theorem apply (unbroken : Unbroken w.stage w) {act : Act} (calm : act.breaks = false) :
    Unbroken (w.apply act).2.stage (w.apply act).2 := by
  have meets := w.apply_meets act
  rw [meets.stage]
  cases act with
  | stream change =>
    have stream : (w.apply (.stream change)).2.session.transport.stream =
        w.session.transport.stream.change change := rfl
    exact ⟨stream ▸ unbroken.stream.change calm, unbroken.untold, unbroken.spacious, unbroken.filled⟩
  | line text =>
    simp only [World.apply, enterLine_eq]
    split
    · exact unbroken.keep rfl rfl rfl rfl rfl fun _ same => same
    · exact unbroken
  | ctrlC =>
    have untold : w.stop.press.terminating = w.stop.terminating := by
      unfold Stop.press
      split <;> rfl
    exact unbroken.keep rfl rfl rfl untold rfl fun _ same => same
  | signal => cases calm
  | sleep milliseconds => exact unbroken.later (w.now + milliseconds * millisecond)
  | closeInput | installHandlers => exact unbroken.keep rfl rfl rfl rfl rfl fun _ same => same

theorem applyAll (unbroken : Unbroken w.stage w) {acts : List Act}
    (calm : ∀ act ∈ acts, act.breaks = false) :
    Unbroken (w.applyAll acts).2.stage (w.applyAll acts).2 :=
  World.applyAll_keeps (I := fun v => Unbroken v.stage v)
    (fun member unbroken => unbroken.apply (calm _ member)) unbroken

end Unbroken

/-! ## What arrives -/

namespace Deafened

variable {w w' v : World}

/-- What arrives reaches the first session alone. -/
theorem apply_inbound (deafened : Deafened w w') {act : Act} (inbound : act.isInbound = true) :
    Deafened (w.apply act).2 w' := by
  have compared (stream : Stream) (same : stream.deaf = w.session.transport.stream.deaf) :
      Session.Deaf { w.session with transport := { w.session.transport with stream } } w'.session := by
    refine ⟨?_, deafened.session.settings, deafened.session.clock⟩
    rw [deafened.session.transport]
    simp only [Transport.deaf, same]
  cases act with
  | stream change =>
    cases change with
    | arrive bytes =>
      exact deafened.adjust (compared (w.session.transport.stream.change (.arrive bytes)) rfl) w.phase
        w'.phase
    | limitReads limit =>
      exact deafened.adjust (compared (w.session.transport.stream.change (.limitReads limit)) rfl)
        w.phase w'.phase
    | _ => cases inbound
  | _ => cases inbound

theorem apply_other (deafened : Deafened w w') (ending : w'.phase.isOver = w.phase.isOver) {act : Act}
    (other : act.isInbound = false) : Deafened (w.apply act).2 (w'.apply act).2 := by
  cases act with
  | stream change =>
    have compared : Session.Deaf
        { w.session with transport := { w.session.transport with
            stream := w.session.transport.stream.change change } }
        { w'.session with transport := { w'.session.transport with
            stream := w'.session.transport.stream.change change } } := by
      refine ⟨?_, deafened.session.settings, deafened.session.clock⟩
      rw [deafened.session.transport]
      cases change with
      | arrive | limitReads => cases other
      | _ => rfl
    exact deafened.adjust compared w.phase w'.phase
  | _ => exact Alike.apply deafened Session.Deaf.comparison ending nofun

theorem applyAll (deafened : Deafened w w') (ending : w'.phase.isOver = w.phase.isOver)
    (acts : List Act) :
    Deafened (w.applyAll acts).2 (w'.applyAll (acts.filter fun act => !act.isInbound)).2 := by
  induction acts generalizing w w' with
  | nil => exact deafened
  | cons act acts inductionHypothesis =>
    have phase := congrArg Phase.isOver (w.phase_apply act)
    have phase' := congrArg Phase.isOver (w'.phase_apply act)
    cases inbound : act.isInbound with
    | true =>
      rw [List.filter_cons_of_neg (by simp [inbound])]
      exact inductionHypothesis (deafened.apply_inbound inbound) (ending.trans phase.symm)
    | false =>
      rw [List.filter_cons_of_pos (by simp [inbound])]
      exact inductionHypothesis (deafened.apply_other ending inbound)
        (phase'.trans (ending.trans phase.symm))

/-- What is read leaves no trace in the second session. -/
theorem receives (deafened : Deafened w w') {read : Option ReadOutcome} (receives : Receives w read v)
    (healthy : w.session.transport.stream.readFailure = none) : Deafened v w' := by
  cases receives with
  | nothing => exact deafened
  | failed received => exact absurd healthy received.failed_broken
  | @bytes stream chunk received =>
    have same : stream.deaf = w.session.transport.stream.deaf := by cases received <;> rfl
    have compared : Session.Deaf (w.fill stream chunk).session w'.session := by
      refine ⟨?_, deafened.session.settings, deafened.session.clock⟩
      rw [deafened.session.transport]
      simp only [session_fill, Transport.deaf, same]
    have noted : Deafened (w.note [.exchanged (.read chunk)]) w' := deafened.note_left rfl
    exact noted.adjust compared w.phase w'.phase

/-- A deaf stream that is unbroken has nothing to read. -/
theorem receive_nothing (deafened : Deafened w w') (isOpen : w.session.transport.closed = false)
    (unbroken : w.session.transport.stream.Unbroken) : w'.receive = (none, w') := by
  obtain ⟨healthy, awaited, -⟩ := unbroken
  have stillOpen := Alike.isOpen Session.Deaf.comparison deafened isOpen
  have stream : w'.session.transport.stream = w.session.transport.stream.deaf := by
    rw [deafened.session.transport]
    rfl
  have receives := receive_receives stillOpen
  generalize w'.receive = answer at receives ⊢
  obtain ⟨read, v⟩ := answer
  cases receives with
  | nothing => rfl
  | failed received => exact absurd (by rw [stream]; exact healthy) received.failed_broken
  | bytes received =>
    rw [stream] at received
    cases received with
    | endOfInput _ _ ended => simp [Stream.deaf, awaited] at ended
    | chunk arrived => exact absurd rfl arrived

theorem dispatch (deafened : Deafened w w') (isOpen : w.session.transport.closed = false)
    (operator : Option Operator.Input) {read : Option ReadOutcome}
    (filled : ∀ outcome ∈ read, ∃ n, outcome = .ok (n + 1)) :
    Unison (w.dispatch ⟨operator, read, false⟩) (w'.dispatch ⟨operator, none, false⟩) :=
  Alike.dispatch deafened Session.Deaf.comparison isOpen operator read none
    (fun alike isOpen outcome => Beside.finish Session.Deaf.comparison alike isOpen outcome)
    (fun alike isOpen => Deafened.afterOperator alike isOpen filled)
    (fun text rest => deafened.afterLine isOpen text rest filled)

end Deafened

/-! ## A session that hears and one that does not -/

/-- A session over an unbroken stream beside one over the deaf stream. -/
structure Overhears (interval : Option Nat) (w w' : World) : Prop where
  regular : w.Regular interval
  regular' : w'.Regular interval
  unbroken : Unbroken w.stage w
  beside : Beside Happening.isOwn Session.Deaf w w'

namespace Overhears

variable {interval : Option Nat} {w w' v : World}

/-- A wait that ends for a line, or when a probe is due, ends in both sessions; one that ends for bytes
    alone ends in the first. -/
theorem wake (overhears : Overhears interval w w') {deadline : Nat}
    (waiting : w.phase = .waiting deadline) (advanced : w.advance? = some v) :
    ∃ n, Beside Happening.isOwn Session.Deaf v (moves n w') := by
  obtain ⟨regular, regular', unbroken, beside⟩ := overhears
  have isOpen : w.session.transport.closed = false := regular.sane.running advanced
  have deafened : Deafened w w' := beside.alike
  have asked : Deafened w.asked w'.asked := deafened.asked
  have receives : Receives w.asked w.asked.receive.1 w.asked.receive.2 := receive_receives isOpen
  have stillOpen : w.asked.receive.2.session.transport.closed = false := receives.closed.trans isOpen
  have intact : Unbroken w.stage w.asked := unbroken.keep rfl rfl rfl rfl rfl fun _ same => same
  have heard := asked.receives receives unbroken.stream.1
  have nothing := asked.receive_nothing isOpen unbroken.stream
  obtain ⟨-, -, -, filled⟩ := intact.receives receives
  refine beside.move_wait Session.Deaf.comparison isOpen unbroken.untold waiting advanced ?_
  rintro rfl deadline' waiting'
  refine ⟨fun _ => ?_, fun asleep => ?_⟩
  · have woken' : w'.woken = (⟨w.operator.tryTake.1, none, false⟩, w'.asked) := by
      simp only [World.woken, nothing, deafened.tryTake]
    rw [woken']
    exact heard.dispatch stillOpen w.operator.tryTake.1 filled
  · -- the second session has no reason to wake, so no probe is due
    simp only [IsRoused, not_or, Bool.not_eq_true, Option.isSome_eq_false_iff,
      Option.isNone_iff_eq_none, Nat.not_le] at asleep
    obtain ⟨noLine', -, early'⟩ := asleep
    have early := regular'.early waiting' early'
    obtain ⟨x, shown, -, -, handled⟩ := heard.afterOperator_eq filled
    rw [asked_of_nothing noLine'] at shown
    have undue : x.session.clock.isDue x.now = false := by
      rw [← shown.isDue, ← shown.now, early]
    have noLine : w.operator.tryTake.1 = none := deafened.tryTake.symm.trans noLine'
    refine ⟨x, shown, ?_⟩
    rw [World.woken, noLine]
    refine handled.trans ?_
    simp [World.afterStream, checkHeartbeat, undue, World.afterProbe]

/-- A line whose write was pending goes on in both sessions. -/
theorem resume_line (overhears : Overhears interval w w') {text : String} {rest : Bytes}
    {read : Option ReadOutcome} (standing : w.phase = .sendingLine text rest read)
    (advanced : w.advance? = some v) : ∃ n, Beside Happening.isOwn Session.Deaf v (moves n w') := by
  obtain ⟨regular, -, unbroken, beside⟩ := overhears
  have isOpen : w.session.transport.closed = false := regular.sane.running advanced
  have level : Unison w w' := beside.level_of_busy (by simp [standing]) (by simp [standing])
  have standing' : w'.phase = .sendingLine text rest none := by rw [level.phase, standing]; rfl
  have blocked := Session.Deaf.comparison.blocked level.alike.session
  have filled : ∀ outcome ∈ read, ∃ n, outcome = .ok (n + 1) := fun outcome member =>
    unbroken.filled outcome (by rw [stage, standing]; exact member)
  rw [advance_line standing] at advanced
  split at advanced <;> rename_i writable <;> cases advanced
  have resumed := advance_line standing'
  rw [blocked, if_neg writable] at resumed
  refine ⟨1, ?_⟩
  rw [moves_one resumed]
  exact .level (Deafened.afterLine level.alike isOpen text rest filled)

theorem resume_probe (overhears : Overhears interval w w') {rest : Bytes} {due : Nat}
    (standing : w.phase = .sendingProbe rest due) (advanced : w.advance? = some v) :
    ∃ n, Beside Happening.isOwn Session.Deaf v (moves n w') := by
  obtain ⟨regular, -, -, beside⟩ := overhears
  have isOpen : w.session.transport.closed = false := regular.sane.running advanced
  have level : Unison w w' := beside.level_of_busy (by simp [standing]) (by simp [standing])
  have standing' : w'.phase = .sendingProbe rest due := by rw [level.phase, standing]; rfl
  have blocked := Session.Deaf.comparison.blocked level.alike.session
  rw [advance_probe standing] at advanced
  split at advanced <;> rename_i writable <;> cases advanced
  have resumed := advance_probe standing'
  rw [blocked, if_neg writable] at resumed
  refine ⟨1, ?_⟩
  rw [moves_one resumed]
  exact .level (Deafened.afterProbe level.alike isOpen rest due)

theorem move (overhears : Overhears interval w w') (advanced : w.advance? = some v) :
    ∃ n, Overhears interval v (moves n w') := by
  obtain ⟨n, beside⟩ : ∃ n, Beside Happening.isOwn Session.Deaf v (moves n w') := by
    have isOpen : w.session.transport.closed = false := overhears.regular.sane.running advanced
    cases standing : w.phase with
    | created | ended => simp [advance?, standing] at advanced
    | atHead =>
      exact overhears.beside.move_head Session.Deaf.comparison isOpen standing advanced
    | waiting deadline => exact overhears.wake standing advanced
    | sendingLine text rest read => exact overhears.resume_line standing advanced
    | sendingProbe rest due => exact overhears.resume_probe standing advanced
  refine ⟨n, overhears.regular.advance advanced, overhears.regular'.moves n, ?_, beside⟩
  exact overhears.unbroken.advance overhears.regular.sane advanced

theorem rest (overhears : Overhears interval w w') (rests : w.Rests) :
    ∃ n, Overhears interval w (moves n w') ∧ (moves n w').Rests := by
  obtain ⟨regular, regular', unbroken, beside⟩ := overhears
  have deafened : Deafened w w' := beside.alike
  obtain ⟨n, followed, rests'⟩ := beside.rest Session.Deaf.comparison regular.sane rests
    fun deadline waiting => by
      have isOpen : w.session.transport.closed = false :=
        regular.sane.trans (by rw [stage, waiting]; rfl)
      have asked : Deafened w.asked w'.asked := deafened.asked
      have early := IsSuspended.lt_deadline ⟨rests, deadline, waiting⟩ waiting
      refine ⟨unbroken.untold, ?_, ?_⟩
      · rw [asked.receive_nothing isOpen unbroken.stream]
      · rw [deafened.isDue, deafened.now, regular.early waiting early]
  exact ⟨n, ⟨regular, regular'.moves n, unbroken, followed⟩, rests'⟩

theorem meet (overhears : Overhears interval w w') (rests : w.Rests) (acts : List Act)
    (calm : ∀ act ∈ acts, act.breaks = false) :
    Overhears interval (w.applyAll acts).2
      (w'.applyAll (acts.filter fun act => !act.isInbound)).2 := by
  obtain ⟨regular, regular', unbroken, beside⟩ := overhears
  have deafened : Deafened w w' := beside.alike
  have met := deafened.applyAll beside.isOver acts
  refine ⟨regular.applyAll acts, regular'.applyAll _, unbroken.applyAll calm, ?_⟩
  exact beside.met rests met (w.phase_applyAll acts) (w'.phase_applyAll _)

end Overhears

/-! ## The outline of a script -/

/-- What is left of an impulse without what arrives, if anything is. -/
def ownActs (acts : List Act) : Option (List Act) :=
  let own := acts.filter fun act => !act.isInbound
  if own.isEmpty then none else some own

/-- A script without what arrives, millisecond by millisecond: what remains of the stream, of the acts
    before the run and of its impulses. -/
structure Outline where
  stream : Stream
  before : List Act
  impulses : List (List Act)
deriving DecidableEq

def Script.outline (script : Script) : Outline where
  stream := script.stream.deaf
  before := script.before.filter fun act => !act.isInbound
  impulses := script.impulses.filterMap ownActs

/-- The run of an outline, in which the session hears nothing. -/
def Outline.run (outline : Outline) (options : Options) (filter : Filter) : Run :=
  .start outline.stream options filter outline.before outline.impulses

/-- A script in which nothing but bytes comes in, and no signal. -/
structure Script.Unbroken (script : Script) : Prop where
  stream : script.stream.Unbroken
  before : ∀ act ∈ script.before, act.breaks = false
  impulses : ∀ acts ∈ script.impulses, ∀ act ∈ acts, act.breaks = false

theorem applyAll_ownActs (w : World) (acts : List Act) :
    ((ownActs acts).elim w fun own => (w.applyAll own).2) =
      (w.applyAll (acts.filter fun act => !act.isInbound)).2 := by
  unfold ownActs
  dsimp only
  split
  · rename_i nothing
    rw [List.isEmpty_iff.mp nothing]
    rfl
  · rfl

theorem Overhears.mirrors (interval : Option Nat) :
    Run.Mirrors (Overhears interval) (fun _ => True) (fun acts => ∀ act ∈ acts, act.breaks = false)
      ownActs where
  move overhears _ advanced := overhears.move advanced
  rest overhears rests := overhears.rest rests
  meet overhears rests _ calm _ := by
    rw [applyAll_ownActs]
    exact overhears.meet rests _ calm

/-! ## The log of outputs -/

/-- Whether something was asked of the stream but to read. -/
def Happening.isOutput : Happening → Bool
  | .exchanged (.read _) | .exchanged (.readFailed _) => false
  | .exchanged _ => true
  | _ => false

/-- All writes with their bytes, all flushes and the shutdown, each with its time. -/
def World.outputs (w : World) : List Record := w.history.filter fun record => record.what.isOutput

theorem Alike.outputs {S : Session → Session → Prop} {w w' : World}
    (alike : Alike Happening.isOwn S w w') : w'.outputs = w.outputs := by
  unfold World.outputs
  rw [alike.history, List.filter_filter]
  refine List.filter_congr fun record _ => ?_
  cases record.what with
  | exchanged exchange => cases exchange <;> rfl
  | _ => rfl

theorem outputs_iterate {run : Run} {interval : Option Nat} (regular : run.world.Regular interval)
    {m n : Nat} (earlier : m ≤ n) :
    (Run.next^[m] run).world.outputs <+: (Run.next^[n] run).world.outputs :=
  (Run.history_iterate regular earlier).filter _

namespace Script.Unbroken

variable {script : Script} (unbroken : script.Unbroken) (options : Options) (filter : Filter)

include unbroken

/-- The session of a script begins beside that of the outline. -/
theorem overhears : Overhears options.heartbeatInterval (script.run options filter).world
    (script.outline.run options filter).world := by
  have deafened : Deafened { session := .start { stream := script.stream } options filter 0 }
      { session := .start { stream := script.stream.deaf } options filter 0 } :=
    ⟨rfl, rfl, rfl, ⟨rfl, rfl, rfl⟩, rfl⟩
  have applied := deafened.applyAll rfl script.before
  have level := Level.begin applied Session.Deaf.comparison (World.phase_applyAll ..)
    (World.phase_applyAll ..)
  have created : Lifeline.Unbroken
      (World.stage { session := .start { stream := script.stream } options filter 0 }) _ :=
    .created unbroken.stream options filter
  have sane := ((World.Regular.created script.stream options filter).applyAll script.before).sane
  refine ⟨Run.regular_start .., Run.regular_start .., ?_, .level level⟩
  exact (World.begin_turns sane).keeps Lifeline.Unbroken.turn (created.applyAll unbroken.before)

/-- Each moment of the run is matched by one of the run of the outline. -/
theorem exists_beside (n : Nat) :
    ∃ k, Overhears options.heartbeatInterval (Run.next^[n] (script.run options filter)).world
      (Run.next^[k] (script.outline.run options filter)).world := by
  obtain ⟨k, beside, -⟩ := (Overhears.mirrors options.heartbeatInterval).iterate
    (unbroken.overhears options filter) unbroken.impulses (fun _ => trivial) n
  exact ⟨k, beside⟩

theorem exists_beside_over {n : Nat} (finished : (Run.next^[n] (script.run options filter)).IsOver) :
    ∃ k, Overhears options.heartbeatInterval (Run.next^[n] (script.run options filter)).world
        (Run.next^[k] (script.outline.run options filter)).world ∧
      (Run.next^[k] (script.outline.run options filter)).IsOver :=
  (Overhears.mirrors options.heartbeatInterval).finished (unbroken.overhears options filter)
    unbroken.impulses (fun _ => trivial) finished

end Script.Unbroken

/-- What the peer sends has no influence on what is written to it.  For two scripts that differ in what
    arrives alone, of the outputs up to any two moments of their runs one is the front of the other, and
    once both runs are over the outputs and the outcomes are the same.  Sessions that do not send
    probes without any interval are over with their scripts. -/
theorem Script.outputs_eq_of_outline_eq {script script' : Script} (unbroken : script.Unbroken)
    (unbroken' : script'.Unbroken) (same : script.outline = script'.outline) (options : Options)
    (filter : Filter) :
    let run := script.run options filter
    let run' := script'.run options filter
    (∀ m n, (Run.next^[m] run).world.outputs <+: (Run.next^[n] run').world.outputs ∨
      (Run.next^[n] run').world.outputs <+: (Run.next^[m] run).world.outputs) ∧
    (∀ m n, (Run.next^[m] run).IsOver → (Run.next^[n] run').IsOver →
      (Run.next^[m] run).world.outputs = (Run.next^[n] run').world.outputs ∧
      (Run.next^[m] run).world.phase.outcome? = (Run.next^[n] run').world.phase.outcome?) ∧
    (options.heartbeatInterval ≠ some 0 →
      (script.performed options filter).outputs = (script'.performed options filter).outputs ∧
      (script.performed options filter).phase.outcome? =
        (script'.performed options filter).phase.outcome?) := by
  intro run run'
  have ended (m n : Nat) (finished : (Run.next^[m] run).IsOver)
      (finished' : (Run.next^[n] run').IsOver) :
      (Run.next^[m] run).world.outputs = (Run.next^[n] run').world.outputs ∧
      (Run.next^[m] run).world.phase.outcome? = (Run.next^[n] run').world.phase.outcome? := by
    obtain ⟨k, overhears, deafOver⟩ := unbroken.exists_beside_over options filter finished
    obtain ⟨l, overhears', deafOver'⟩ := unbroken'.exists_beside_over options filter finished'
    -- the run of the outline ends in one way only
    rw [← same] at overhears' deafOver'
    have unique := Run.over_unique deafOver deafOver'
    rw [unique] at overhears
    refine ⟨?_, ?_⟩
    · rw [← overhears.beside.alike.outputs, overhears'.beside.alike.outputs]
    · rw [← overhears.beside.outcome, overhears'.beside.outcome]
  refine ⟨fun m n => ?_, ended, fun lively => ?_⟩
  · obtain ⟨k, overhears⟩ := unbroken.exists_beside options filter m
    obtain ⟨l, overhears'⟩ := unbroken'.exists_beside options filter n
    rw [← same] at overhears'
    have regular : (script.outline.run options filter).world.Regular options.heartbeatInterval :=
      Run.regular_start ..
    rw [← overhears.beside.alike.outputs, ← overhears'.beside.alike.outputs]
    exact (Nat.le_total k l).imp (outputs_iterate regular) (outputs_iterate regular)
  · obtain ⟨m, performed, finished⟩ := script.exists_iterate_performed filter lively
    obtain ⟨n, performed', finished'⟩ := script'.exists_iterate_performed filter lively
    rw [← performed, ← performed']
    exact ended m n finished finished'

/-- A byte that arrives between two probes moves neither of them. -/
theorem Script.outputs_eq_of_arrival :
    let options : Options := ⟨some millisecond, [0], 4, "quit"⟩
    let quiet : Script := { steps := [.single (.sleep 2)] }
    let heard : Script := { steps := [.single (.sleep 1), .single (.stream (.arrive [65])),
      .single (.sleep 1)] }
    (quiet.performed options (.sentinel [0])).outputs =
        (heard.performed options (.sentinel [0])).outputs ∧
      (heard.performed options (.sentinel [0])).outputs.length = 4 := by
  intro options quiet heard
  have unbroken : quiet.Unbroken := ⟨⟨rfl, rfl, nofun⟩, nofun, by decide⟩
  have unbroken' : heard.Unbroken := ⟨⟨rfl, rfl, nofun⟩, nofun, by decide⟩
  obtain ⟨-, -, performed⟩ :=
    Script.outputs_eq_of_outline_eq unbroken unbroken' (by decide) options (.sentinel [0])
  exact ⟨(performed (by decide)).1, by decide⟩

end Lifeline
