import Lifeline.Proofs.Session.Aftermath
import Lifeline.Proofs.Session.Causes
import Lifeline.Proofs.Session.Deliveries
import Lifeline.Proofs.Session.Replies
import Lifeline.Proofs.Session.Shutdowns

/-! # What a fault is due to

The operation that a fault names is that of the exchange which failed.  Whether a send was one of a
line or of a probe cannot be told from its bytes, which may be the same, but from the operator's
lines: while a line is being sent, it is the first one without a reply (`SendFailed`).

`follow_faults` puts this together with what follows a failure, with the stream that caused it and
with shutdowns, which cause nothing.
-/

namespace Lifeline

open World
open Stage (Turn)
open Transport (Accepted Sent)

/-! ## Failed reads and sends -/

/-- A read failed, and no write or flush did. -/
structure World.ReadFailed (w : World) (cause : Cause) : Prop where
  asked : .readFailed cause ∈ w.exchanges
  faultless : Faultless w.outbound

/-- The last payload was cut by a failure.  Of the accepted lines just this payload, if it is a
    line, and those that still wait have had no reply. -/
structure World.SendFailed (filter : Filter) (keyword : String) (w : World) (payload : Payload)
    (cause : Cause) : Prop where
  outward : payload.IsOutward keyword
  outbound : ∃ (deliveries : List (Delivery filter keyword)) (rest : Bytes)
    (accepted : Accepted (payload.bytes filter) rest) (exchange : Exchange),
    exchange.Breaks payload.op rest cause ∧ w.outbound = deliveries.flatMap Delivery.trace ++
      (accepted.trace payload.op ++ [.exchanged exchange])
  owed : w.queuedLines.drop w.replies.length = payload.text?.toList ++ w.operator.lines

variable {filter : Filter} {keyword : String} {s t : Stage} {w v : World}

theorem World.SendFailed.told {payload : Payload} {cause : Cause}
    (failed : w.SendFailed filter keyword payload cause) :
    ∃ exchange, .exchanged exchange ∈ w.outbound ∧
      exchange.fault? = some (.of payload.op cause) := by
  obtain ⟨deliveries, rest, accepted, exchange, breaks, outbound⟩ := failed.outbound
  exact ⟨exchange, by simp [outbound], breaks.fault⟩

theorem World.SendFailed.not_readFailed {payload : Payload} {cause cause' : Cause}
    (failed : w.SendFailed filter keyword payload cause) : ¬ w.ReadFailed cause' := by
  intro readFailed
  obtain ⟨exchange, asked, told⟩ := failed.told
  have none := readFailed.faultless _ asked
  rw [Happening.fault?, told] at none
  cases none

/-- No two payloads can have been cut. -/
theorem World.SendFailed.unique {payload payload' : Payload} {cause cause' : Cause}
    (failed : w.SendFailed filter keyword payload cause)
    (other : w.SendFailed filter keyword payload' cause') : payload = payload' := by
  have owed : payload.text?.toList = payload'.text?.toList :=
    List.append_cancel_right (failed.owed.symm.trans other.owed)
  cases payload <;> cases payload' <;> simp_all [Payload.text?]

theorem Delivery.faultless_trace (delivery : Delivery filter keyword) :
    Faultless delivery.trace := by
  refine (delivery.accepted.faultless_trace _).append (List.forall_mem_cons.mpr ⟨rfl, ?_⟩)
  cases delivery.payload <;> simp [Payload.confirmation, Happening.fault?]

theorem World.operator_finish (w : World) (outcome : Outcome) :
    (w.finish outcome).operator = w.operator := rfl

/-! ## The invariant -/

/-- What the fault is due to with which a session has ended. -/
inductive Attributed (filter : Filter) (keyword : String) (w : World) : Stage → Prop where
  | other {s : Stage} (other : ∀ fault, s ≠ .ended (.fault fault)) : Attributed filter keyword w s
  | read {cause : Cause} (failed : w.ReadFailed cause) :
      Attributed filter keyword w (.ended (.fault (.of .receive cause)))
  | send {payload : Payload} {cause : Cause} (failed : w.SendFailed filter keyword payload cause) :
      Attributed filter keyword w (.ended (.fault (.of payload.op cause)))

theorem Attributed.frame (attributed : Attributed filter keyword w s)
    (outbound : v.outbound = w.outbound) (exchanges : v.exchanges = w.exchanges)
    (queued : v.queuedLines = w.queuedLines) (replies : v.replies = w.replies)
    (lines : v.operator.lines = w.operator.lines) : Attributed filter keyword v s := by
  cases attributed with
  | other other => exact .other other
  | read failed =>
    obtain ⟨asked, faultless⟩ := failed
    exact .read ⟨exchanges ▸ asked, outbound ▸ faultless⟩
  | send failed =>
    obtain ⟨outward, cut, owed⟩ := failed
    exact .send ⟨outward, outbound ▸ cut, by rw [queued, replies, lines, owed]⟩

/-- The operation of a fault tells what failed. -/
theorem Attributed.names {fault : Fault}
    (attributed : Attributed filter keyword w (.ended (.fault fault))) :
    fault.kind = .ofCause fault.cause ∧
    (∃ exchange ∈ w.exchanges, exchange.fault? = some fault) ∧
    (fault.op = .receive ↔ w.ReadFailed fault.cause) ∧
    (fault.op = .heartbeat ↔ w.SendFailed filter keyword .probe fault.cause) ∧
    (fault.op = .send ↔ ∃ text, w.SendFailed filter keyword (.line text) fault.cause) := by
  cases attributed with
  | other other => exact absurd rfl (other fault)
  | @read cause failed =>
    refine ⟨rfl, ⟨_, failed.asked, rfl⟩, iff_of_true rfl failed, iff_of_false nofun ?_,
      iff_of_false nofun ?_⟩
    · exact fun cut => cut.not_readFailed failed
    · exact fun ⟨_, cut⟩ => cut.not_readFailed failed
  | @send payload cause failed =>
    obtain ⟨exchange, asked, told⟩ := failed.told
    have within := Happening.mem_exchanges.mpr (List.mem_of_mem_filter asked)
    cases payload with
    | line text =>
      refine ⟨rfl, ⟨exchange, within, told⟩, iff_of_false nofun failed.not_readFailed,
        iff_of_false nofun fun probe => ?_, iff_of_true rfl ⟨text, failed⟩⟩
      cases failed.unique probe
    | probe =>
      refine ⟨rfl, ⟨exchange, within, told⟩, iff_of_false nofun failed.not_readFailed,
        iff_of_true rfl failed, iff_of_false nofun fun ⟨text, line⟩ => ?_⟩
      cases failed.unique line

structure Accounts (filter : Filter) (keyword : String) (s : Stage) (w : World) : Prop where
  delivers : Delivers filter keyword s w
  serves : Serves keyword s w
  aftermath : Aftermath w s
  attributed : Attributed filter keyword w s

namespace Accounts

theorem opened (stream : Stream) (options : Options) (filter : Filter) (now : Nat) :
    Accounts filter options.quitKeyword .created (World.opened stream options filter now) :=
  ⟨.opened .., .opened .., .opened .., .other nofun⟩

/-- A read in hand that failed ends the session, and all that was sent had got through. -/
theorem readFailed {fault : Fault} (accounts : Accounts filter keyword
    (.answered (some (.error fault))) w) (isOpen : w.session.transport.closed = false) :
    Attributed filter keyword (w.finish (.fault fault)) (.ended (.fault fault)) := by
  obtain ⟨deliveries, outbound⟩ := accounts.delivers.whole rfl
  have ended := happenings_finish isOpen (.fault fault)
  have same : (w.finish (.fault fault)).outbound = w.outbound :=
    (outbound_more ended).trans (List.append_nil _)
  cases accounts.aftermath with
  | sound calm => cases calm
  | @awaited _ cause before answer faultless inHand attending last =>
    cases inHand
    have asked : .exchanged (.readFailed cause) ∈ w.happenings :=
      List.mem_of_mem_filter (p := fun happening => happening.line?.isNone)
        (show _ ∈ w.doings by simp [last])
    refine .read ⟨?_, ?_⟩
    · rw [exchanges_more ended]
      exact List.mem_append_left _ (Happening.mem_exchanges.mpr asked)
    · rw [same, outbound]
      intro happening member
      obtain ⟨delivery, -, within⟩ := List.mem_flatMap.mp member
      exact delivery.faultless_trace happening within

/-- A send that fails ends the session, and the line that was being sent has no reply. -/
theorem sendFailed (accounts : Accounts filter keyword s w) (running : s.isOver = false)
    (isOpen : w.session.transport.closed = false) (payload : Payload) {rest : Bytes}
    (sending : s.sending? = some (payload, rest)) (inHand : s.inHand = payload.text?.toList)
    {fault : Fault} {exchanges : List Exchange} {failure : Option (Cause × Nat)}
    (sent : Sent payload.op rest (.failed fault) exchanges) :
    Attributed filter keyword ((w.afterSend failure exchanges).finish (.fault fault))
      (.ended (.fault fault)) := by
  have more := happenings_afterSend w failure exchanges
  have stillOpen : (w.afterSend failure exchanges).session.transport.closed = false := isOpen
  obtain ⟨deliveries, left, accepted, cause, exchange, outward, rfl, breaks, outbound⟩ :=
    accounts.delivers.outbound_failed sending sent (finish_more more stillOpen (.fault fault)) rfl
  obtain ⟨replied, -, queue, shown⟩ := accounts.serves.running running
  obtain ⟨lines, replies⟩ := Serves.finish_replies more stillOpen (.fault (.of payload.op cause))
    (Happening.no_line exchanges)
  refine .send ⟨outward, ⟨deliveries, left, accepted, exchange, breaks, outbound⟩, ?_⟩
  rw [lines, replies, Happening.no_reply, List.append_nil, queue, shown, List.length_map,
    List.drop_left, inHand, operator_finish]
  rfl

theorem turn (isOpen : w.session.transport.closed = false) (turn : Turn s w t v)
    (accounts : Accounts filter keyword s w) : Accounts filter keyword t v := by
  refine ⟨.turn isOpen turn accounts.delivers, .turn isOpen turn accounts.serves,
    .turn isOpen turn accounts.aftermath, ?_⟩
  cases turn with
  | readFailed => exact accounts.readFailed isOpen
  | @lineFailed _ text rest read failure exchanges fault sent =>
    exact accounts.sendFailed rfl isOpen (.line text) rfl rfl sent
  | @probeFailed _ rest due failure exchanges fault sent =>
    exact accounts.sendFailed rfl isOpen .probe rfl rfl sent
  | _ => exact .other (by simp)

theorem met {occurrence : Occurrence} (meets : w.Meets occurrence v)
    (accounts : Accounts filter keyword w.stage w) : Accounts filter keyword w.stage v := by
  refine ⟨.met meets accounts.delivers, .met meets accounts.serves, .met meets accounts.aftermath,
    ?_⟩
  cases meets with
  | stream | refused | closeInput | pass | request =>
    exact accounts.attributed.frame rfl rfl rfl rfl rfl
  | queued running =>
    -- no line is accepted once the session has ended
    refine .other fun fault ended => ?_
    rw [← w.stage_isOver, ended] at running
    cases running

end Accounts

/-! ## The next move after a failed read -/

/-- A session that is sending a line while a failed read is in hand ends as soon as the stream lets
    it go on. -/
theorem World.after_move_of_readFailed {text : String} {rest : Bytes} {fault : Fault}
    (isOpen : w.session.transport.closed = false)
    (standing : w.phase = .sendingLine text rest (some (.error fault)))
    (free : w.session.transport.stream.blocked = false) :
    (w.after .move).stage.isOver = true := by
  obtain ⟨progress, failure, exchanges, -, answer⟩ := send_afterSend isOpen .send rest
  have advanced : w.after .move = afterLine text (some (.error fault)) (w.sendLine text rest) := by
    simp only [after, advance_line standing, free, Bool.false_eq_true, if_false, Option.getD_some]
  rw [advanced, sendLine, answer]
  cases progress with
  | done => rfl
  | pending left =>
    rw [blocked_of_send_pending isOpen (congrArg Prod.fst answer)] at free
    cases free
  | failed => rfl

/-! ## All that a session ends with -/

/-- Whatever happens in whatever order, a session that ends with a fault names what failed.  The
    fault has the kind of its cause, was told by an exchange with the stream, and its operation is
    that of a read, of a probe or of an operator's line exactly if a read failed, a probe was cut or
    a line was cut, also if the line has the bytes of the probe.

    Conversely nothing follows the first exchange that fails but what `Aftermath` allows, so it ends
    the session in the same cycle: a write or a flush at once, and a read unless the operator's input
    of its cycle ends the session before it is handled.  If that input is a line whose write is
    pending, the session ends with the first move that the stream allows.

    Every cause is the stream's own: each exchange is answered as the stream stood at some moment of
    the course.  And failures of shutdowns change nothing but what is recorded of them. -/
theorem World.follow_faults (stream : Stream) (options : Options) (filter : Filter) (now : Nat)
    (course : List Occurrence) :
    let opened := World.opened stream options filter now
    let w := opened.follow course
    (∀ fault, w.phase = .ended (.fault fault) →
      fault.kind = .ofCause fault.cause ∧
      (∃ exchange ∈ w.exchanges, exchange.fault? = some fault) ∧
      (fault.op = .receive ↔ w.ReadFailed fault.cause) ∧
      (fault.op = .heartbeat ↔ w.SendFailed filter options.quitKeyword .probe fault.cause) ∧
      (fault.op = .send ↔ ∃ text,
        w.SendFailed filter options.quitKeyword (.line text) fault.cause)) ∧
    Aftermath w w.stage ∧
    (∀ text rest fault, w.phase = .sendingLine text rest (some (.error fault)) →
      w.session.transport.stream.blocked = false → (w.after .move).stage.isOver = true) ∧
    (∀ exchange ∈ w.exchanges, ∃ earlier, earlier <+: course ∧
      (opened.follow earlier).session.transport.stream.Answers exchange) ∧
    (World.opened stream.smooth options filter now).follow
      (course.filter fun occurrence => !occurrence.spoilsShutdown) = w.smooth := by
  intro opened w
  have sane := World.sane_opened stream options filter now
  have accounts : Accounts filter options.quitKeyword w.stage w :=
    World.follow_keeps Accounts.turn Accounts.met sane (.opened stream options filter now) course
  refine ⟨fun fault ended => ?_, accounts.aftermath, ?_, ?_, (smooth_follow opened course).symm⟩
  · have standing : w.stage = .ended (.fault fault) := by rw [World.stage, ended]; rfl
    exact (standing ▸ accounts.attributed).names
  · intro text rest fault standing free
    have isOpen : w.session.transport.closed = false := by
      rw [sane.follow course, stage_isOver, standing]
      rfl
    exact after_move_of_readFailed isOpen standing free
  · intro exchange asked
    obtain before | answered := answers_follow opened course asked
    · cases before
    · exact answered

/-- A line that reads like the probe is a line, and the quit command comes before a failed read. -/
example :
    let opened := World.opened {} ⟨some second, [112], 1, "exit"⟩ (.sentinel [112]) 0
    let broken : Occurrence := .act (.stream (.failWrites (.bare .brokenPipe) 0))
    let reset : Occurrence := .act (.stream (.failReads (.bare .connectionReset)))
    (opened.follow [broken, .act (.line "p"), .begin, .move, .move]).phase.outcome? =
        some (.fault ⟨.send, .brokenPipe, .bare .brokenPipe⟩) ∧
      (opened.follow [broken, .begin, .move, .elapse second, .move]).phase.outcome? =
        some (.fault ⟨.heartbeat, .brokenPipe, .bare .brokenPipe⟩) ∧
      (opened.follow [reset, .act (.line "exit"), .begin, .move, .move]).phase.outcome? =
        some .operatorQuit := by
  decide

end Lifeline
