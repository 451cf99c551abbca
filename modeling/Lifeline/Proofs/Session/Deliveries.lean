import Lifeline.Proofs.Session.Course
import Mathlib.Data.List.Basic

/-! # What a session writes

Lines and probes share one stream, which may take them in any number of pieces and fail at any of
them.  A payload that got through leaves a `Delivery`: its pieces, one flush and, for a line, the
event that confirms it.  All that a session ever writes is deliveries one after the other and, at
the end, the `Remainder` of a send that is pending or has failed.

The invariant is `Delivers`.  Between two sends nothing remains (`Stage.isCalm`), so it is enough to
see how a send begins, how it goes on, and its three ends.
-/

namespace Lifeline

/-! ## Payloads -/

inductive Payload where
  | line (text : String)
  | probe
deriving DecidableEq, Repr

namespace Payload

def op : Payload → Operation
  | .line _ => .send
  | .probe => .heartbeat

def bytes (filter : Filter) : Payload → Bytes
  | .line text => Text.encode text
  | .probe => filter.probe

def text? : Payload → Option String
  | .line text => some text
  | .probe => none

def confirmation : Payload → List Happening
  | .line text => [.shown (.sent text)]
  | .probe => []

/-- Blank lines and quit commands are for the session itself. -/
def IsOutward (keyword : String) : Payload → Prop
  | .line text => text.isEmpty = false ∧ Operator.isQuit text keyword = false
  | .probe => True

end Payload

/-! ## Traces of a send -/

namespace Happening

def isOutbound : Happening → Bool
  | .exchanged (.wrote _ _) | .exchanged (.writeFailed _ _) | .exchanged (.flushed _ _)
  | .shown (.sent _) => true
  | _ => false

def accepted : Happening → Bytes
  | .exchanged (.wrote _ bytes) => bytes
  | _ => []

def sentLine? : Happening → Option String
  | .shown (.sent text) => some text
  | _ => none

end Happening

namespace World

variable (w : World)

def outbound : List Happening := w.happenings.filter Happening.isOutbound

def acceptedBytes : Bytes := w.happenings.flatMap Happening.accepted

def sentLines : List String := w.happenings.filterMap Happening.sentLine?

end World

open Transport (Accepted)

/-- A payload that was written as a whole, flushed and confirmed. -/
structure Delivery (filter : Filter) (keyword : String) where
  payload : Payload
  outward : payload.IsOutward keyword
  accepted : Accepted (payload.bytes filter) []

def Delivery.trace {filter : Filter} {keyword : String} (delivery : Delivery filter keyword) :
    List Happening :=
  delivery.accepted.trace delivery.payload.op ++
    .exchanged (.flushed delivery.payload.op none) :: delivery.payload.confirmation

namespace Stage

/-- The payload that is being sent, and what of it is still to be written. -/
def sending? : Stage → Option (Payload × Bytes)
  | .sendingLine text rest _ => some (.line text, rest)
  | .sendingProbe rest _ => some (.probe, rest)
  | _ => none

/-- Whether no send is under way and none has failed. -/
def isCalm : Stage → Bool
  | .sendingLine _ _ _ | .sendingProbe _ _ => false
  | .ended (.fault fault) => fault.op = .receive
  | _ => true

end Stage

/-- What is left of a last send that did not get through: the accepted bytes and the trace. -/
inductive Remainder (filter : Filter) (keyword : String) :
    Stage → Bytes → List Happening → Prop where
  | nothing {s : Stage} (calm : s.isCalm = true) : Remainder filter keyword s [] []
  | pending {s : Stage} {payload : Payload} {rest : Bytes}
      (sending : s.sending? = some (payload, rest)) (outward : payload.IsOutward keyword)
      (accepted : Accepted (payload.bytes filter) rest) :
      Remainder filter keyword s accepted.pieces.flatten (accepted.trace payload.op)
  | failed {payload : Payload} {rest : Bytes} {cause : Cause} {failure : Exchange}
      (outward : payload.IsOutward keyword) (accepted : Accepted (payload.bytes filter) rest)
      (breaks : failure.Breaks payload.op rest cause) :
      Remainder filter keyword (.ended (.fault (.of payload.op cause))) accepted.pieces.flatten
        (accepted.trace payload.op ++ [.exchanged failure])

/-! ## The invariant -/

open World
open Stage (Turn)

variable {filter : Filter} {keyword : String} {s t : Stage} {w v : World} {new : List Happening}

structure Delivers (filter : Filter) (keyword : String) (s : Stage) (w : World) : Prop where
  settings : w.session.settings = (filter, keyword)
  /-- A read in hand that failed is a failed receive. -/
  received : ∀ fault, s.read? = some (.error fault) → fault.op = .receive
  outbound : ∃ (deliveries : List (Delivery filter keyword)) (bytes : Bytes)
    (trace : List Happening), Remainder filter keyword s bytes trace ∧
      w.outbound = deliveries.flatMap Delivery.trace ++ trace

theorem World.outbound_more (more : v.happenings = w.happenings ++ new) :
    v.outbound = w.outbound ++ new.filter Happening.isOutbound :=
  filter_more more Happening.isOutbound

theorem Transport.Accepted.outbound_trace {payload rest : Bytes} (op : Operation)
    (accepted : Accepted payload rest) :
    ((accepted.exchanges op).map .exchanged).filter Happening.isOutbound = accepted.trace op := by
  simp [Accepted.trace, Accepted.exchanges, Happening.isOutbound]

theorem Exchange.Breaks.isOutbound {op : Operation} {rest : Bytes} {cause : Cause}
    {failure : Exchange} (breaks : failure.Breaks op rest cause) :
    (Happening.exchanged failure).isOutbound = true := by
  cases breaks <;> rfl

namespace Delivers

/-- Between two sends nothing remains of the last one. -/
theorem whole (delivers : Delivers filter keyword s w) (calm : s.isCalm = true) :
    ∃ deliveries : List (Delivery filter keyword),
      w.outbound = deliveries.flatMap Delivery.trace := by
  obtain ⟨deliveries, bytes, trace, remainder, shape⟩ := delivers.outbound
  cases remainder with
  | nothing => exact ⟨deliveries, by simpa using shape⟩
  | @pending _ payload rest sending =>
    -- a stage that sends is not calm
    cases s <;> simp only [Stage.sending?, Stage.isCalm, reduceCtorEq] at sending calm
  | @failed payload _ _ _ _ _ _ =>
    cases payload <;> simp [Stage.isCalm, Fault.of, Payload.op] at calm

/-- While a send is under way, some of its payload is accepted. -/
theorem underway (delivers : Delivers filter keyword s w) {payload : Payload} {rest : Bytes}
    (sending : s.sending? = some (payload, rest)) :
    ∃ (deliveries : List (Delivery filter keyword)) (_ : payload.IsOutward keyword)
      (accepted : Accepted (payload.bytes filter) rest),
      w.outbound = deliveries.flatMap Delivery.trace ++ accepted.trace payload.op := by
  obtain ⟨deliveries, bytes, trace, remainder, shape⟩ := delivers.outbound
  cases remainder with
  | nothing calm => cases s <;> simp only [Stage.sending?, Stage.isCalm, reduceCtorEq] at sending calm
  | pending current outward accepted =>
    rw [sending] at current
    cases current
    exact ⟨deliveries, outward, accepted, shape⟩
  | failed => cases sending

theorem received_kept (delivers : Delivers filter keyword s w)
    (read : t.read? = s.read? ∨ t.read? = none) :
    ∀ fault, t.read? = some (.error fault) → fault.op = .receive := by
  intro fault told
  obtain same | none := read
  · exact delivers.received fault (same ▸ told)
  · rw [none] at told
    cases told

theorem pass (delivers : Delivers filter keyword s w) (calm : s.isCalm = true)
    (still : t.isCalm = true) (settings : v.session.settings = w.session.settings)
    (more : v.happenings = w.happenings ++ new)
    (inward : new.filter Happening.isOutbound = [])
    (received : ∀ fault, t.read? = some (.error fault) → fault.op = .receive) :
    Delivers filter keyword t v := by
  obtain ⟨deliveries, shape⟩ := delivers.whole calm
  refine ⟨settings.trans delivers.settings, received, deliveries, [], [], .nothing still, ?_⟩
  rw [outbound_more more, inward, shape]

theorem start (delivers : Delivers filter keyword s w) (calm : s.isCalm = true) {payload : Payload}
    (sending : t.sending? = some (payload, payload.bytes filter))
    (outward : payload.IsOutward keyword) (read : t.read? = s.read? ∨ t.read? = none) :
    Delivers filter keyword t w := by
  obtain ⟨deliveries, shape⟩ := delivers.whole calm
  refine ⟨delivers.settings, delivers.received_kept read, deliveries, _, _,
    .pending sending outward (.nothing _), ?_⟩
  rw [shape]
  exact (List.append_nil _).symm

theorem outbound_attempt (more : v.happenings = w.happenings ++ new)
    {deliveries : List (Delivery filter keyword)} {payload : Payload} {rest : Bytes}
    {accepted : Accepted (payload.bytes filter) rest}
    (shape : w.outbound = deliveries.flatMap Delivery.trace ++ accepted.trace payload.op)
    {left : Bytes} (later : Accepted rest left) {tail : List Happening}
    (added : new.filter Happening.isOutbound = later.trace payload.op ++ tail) :
    v.outbound = deliveries.flatMap Delivery.trace ++
      ((accepted.append later).trace payload.op ++ tail) := by
  rw [outbound_more more, shape, added, Accepted.trace_append]
  simp only [List.append_assoc]

theorem done (delivers : Delivers filter keyword s w) {payload : Payload} {rest : Bytes}
    (sending : s.sending? = some (payload, rest)) (still : t.isCalm = true)
    (settings : v.session.settings = w.session.settings)
    {exchanges : List Exchange} (sent : Transport.Sent payload.op rest .done exchanges)
    (more : v.happenings =
      w.happenings ++ (exchanges.map .exchanged ++ payload.confirmation))
    (read : t.read? = s.read? ∨ t.read? = none) : Delivers filter keyword t v := by
  obtain ⟨deliveries, outward, accepted, shape⟩ := delivers.underway sending
  obtain ⟨later, rfl⟩ := sent.done_accepted
  -- all that a send leaves is outbound: the pieces, the flush and the confirmation
  have confirmed : payload.confirmation.filter Happening.isOutbound = payload.confirmation := by
    cases payload <;> rfl
  have added : ((later.exchanges payload.op ++ [Exchange.flushed payload.op none]).map
      Happening.exchanged ++
      payload.confirmation).filter Happening.isOutbound = later.trace payload.op ++
        .exchanged (.flushed payload.op none) :: payload.confirmation := by
    rw [List.map_append, List.append_assoc, List.filter_append, List.filter_append, confirmed,
      later.outbound_trace]
    rfl
  refine ⟨settings.trans delivers.settings, delivers.received_kept read,
    deliveries ++ [⟨payload, outward, accepted.append later⟩], [], [], .nothing still, ?_⟩
  rw [outbound_attempt more shape later added, List.flatMap_append, List.append_nil]
  simp only [List.flatMap_cons, List.flatMap_nil, List.append_nil, Delivery.trace]

theorem held (delivers : Delivers filter keyword s w) {payload : Payload} {rest left : Bytes}
    (sending : s.sending? = some (payload, rest)) (still : t.sending? = some (payload, left))
    (settings : v.session.settings = w.session.settings) {exchanges : List Exchange}
    (sent : Transport.Sent payload.op rest (.pending left) exchanges)
    (more : v.happenings = w.happenings ++ exchanges.map .exchanged)
    (read : t.read? = s.read?) : Delivers filter keyword t v := by
  obtain ⟨deliveries, outward, accepted, shape⟩ := delivers.underway sending
  obtain ⟨later, rfl⟩ := sent.pending_accepted
  have added : ((later.exchanges payload.op).map .exchanged).filter Happening.isOutbound =
      later.trace payload.op ++ [] := by
    rw [later.outbound_trace, List.append_nil]
  refine ⟨settings.trans delivers.settings, delivers.received_kept (.inl read), deliveries, _, _,
    .pending still outward (accepted.append later), ?_⟩
  rw [outbound_attempt more shape later added, List.append_nil]

/-- A send that fails adds the rest of what was accepted and then the failure. -/
theorem outbound_failed (delivers : Delivers filter keyword s w) {payload : Payload} {rest : Bytes}
    (sending : s.sending? = some (payload, rest)) {fault : Fault} {exchanges : List Exchange}
    (sent : Transport.Sent payload.op rest (.failed fault) exchanges)
    (more : v.happenings = w.happenings ++ (exchanges.map .exchanged ++ new))
    (inward : new.filter Happening.isOutbound = []) :
    ∃ (deliveries : List (Delivery filter keyword)) (left : Bytes)
      (accepted : Accepted (payload.bytes filter) left) (cause : Cause) (failure : Exchange),
      payload.IsOutward keyword ∧ fault = .of payload.op cause ∧
      failure.Breaks payload.op left cause ∧ v.outbound = deliveries.flatMap Delivery.trace ++
        (accepted.trace payload.op ++ [.exchanged failure]) := by
  obtain ⟨deliveries, outward, accepted, shape⟩ := delivers.underway sending
  obtain ⟨left, later, cause, failure, rfl, breaks, rfl⟩ := sent.failed_accepted
  have added : ((later.exchanges payload.op ++ [failure]).map Happening.exchanged ++ new).filter
      Happening.isOutbound = later.trace payload.op ++ [.exchanged failure] := by
    rw [List.filter_append, inward, List.append_nil, List.map_append, List.filter_append,
      later.outbound_trace]
    simp [breaks.isOutbound]
  exact ⟨deliveries, left, accepted.append later, cause, failure, outward, rfl, breaks,
    outbound_attempt more shape later added⟩

theorem failed (delivers : Delivers filter keyword s w) {payload : Payload} {rest : Bytes}
    (sending : s.sending? = some (payload, rest)) {fault : Fault}
    (settings : v.session.settings = w.session.settings) {exchanges : List Exchange}
    (sent : Transport.Sent payload.op rest (.failed fault) exchanges)
    (more : v.happenings = w.happenings ++ (exchanges.map .exchanged ++ new))
    (inward : new.filter Happening.isOutbound = []) :
    Delivers filter keyword (.ended (.fault fault)) v := by
  obtain ⟨deliveries, left, accepted, cause, failure, outward, rfl, breaks, shape⟩ :=
    delivers.outbound_failed sending sent more inward
  exact ⟨settings.trans delivers.settings, delivers.received_kept (.inr rfl), deliveries, _, _,
    .failed outward accepted breaks, shape⟩

theorem opened (stream : Stream) (options : Options) (filter : Filter) (now : Nat) :
    Delivers filter options.quitKeyword .created (World.opened stream options filter now) :=
  ⟨rfl, by simp [Stage.read?], [], [], [], .nothing rfl, rfl⟩

theorem turn (isOpen : w.session.transport.closed = false) (turn : Turn s w t v)
    (delivers : Delivers filter keyword s w) : Delivers filter keyword t v := by
  have settings := turn.settings
  have same : w.happenings = w.happenings ++ [] := (List.append_nil _).symm
  cases turn with
  | begin =>
    exact delivers.pass rfl rfl settings (happenings_enter ..) rfl
      (delivers.received_kept (.inr rfl))
  | wait | takeLine | takeClose | takeNothing | noRead | hide | rest =>
    exact delivers.pass rfl rfl settings same rfl (delivers.received_kept (.inr rfl))
  | noLine => exact delivers.pass rfl rfl settings same rfl (delivers.received_kept (.inl rfl))
  | read receives =>
    cases receives with
    | nothing => exact delivers.pass rfl rfl settings same rfl (delivers.received_kept (.inr rfl))
    | failed =>
      refine delivers.pass rfl rfl settings (happenings_exchange ..) rfl ?_
      rintro fault ⟨⟩
      rfl
    | bytes =>
      exact delivers.pass rfl rfl settings (happenings_fill ..) rfl (by simp [Stage.read?])
  | display =>
    exact delivers.pass rfl rfl settings (happenings_emit ..) rfl (delivers.received_kept (.inr rfl))
  | skip =>
    exact delivers.pass rfl rfl settings (happenings_emit ..) rfl (delivers.received_kept (.inl rfl))
  | stop | interrupt | close =>
    exact delivers.pass rfl rfl settings (happenings_finish isOpen _) rfl
      (delivers.received_kept (.inr rfl))
  | quit | inputOver =>
    exact delivers.pass rfl rfl settings (finish_more (happenings_emit ..) isOpen _) rfl
      (delivers.received_kept (.inr rfl))
  | readFailed =>
    -- a failed receive ends the session, but no send was under way
    have calm : (Stage.ended (.fault _)).isCalm = true :=
      decide_eq_true (delivers.received _ rfl)
    exact delivers.pass rfl calm settings (happenings_finish isOpen _) rfl
      (delivers.received_kept (.inr rfl))
  | sendLine goesOn filled =>
    -- the line passed both tests of the session, so it may go out
    have given : w.session.quitKeyword = keyword := congrArg Prod.snd delivers.settings
    exact delivers.start rfl rfl ⟨filled, given ▸ goesOn⟩ (.inl rfl)
  | sendProbe due =>
    have given : w.session.filter = filter := congrArg Prod.fst delivers.settings
    have sending : (Stage.sendingProbe w.session.filter.probe w.now).sending? =
        some (.probe, Payload.bytes filter .probe) := by
      rw [given]
      rfl
    exact delivers.start rfl sending trivial (.inr rfl)
  | lineSent sent =>
    refine delivers.done rfl rfl settings sent ?_ (.inl rfl)
    rw [happenings_emit, happenings_recordSend, happenings_afterSend, List.append_assoc]
    rfl
  | lineHeld sent =>
    exact delivers.held rfl rfl settings sent (happenings_afterSend ..) rfl
  | lineFailed sent =>
    exact delivers.failed rfl settings sent
      (finish_more (happenings_afterSend w _ _) (by exact isOpen) _) rfl
  | probeSent sent =>
    refine delivers.done rfl rfl settings sent ?_ (.inr rfl)
    rw [happenings_moveTo, happenings_recordSend, happenings_afterSend, Payload.confirmation,
      List.append_nil]
  | probeHeld sent =>
    exact delivers.held rfl rfl settings sent (happenings_afterSend ..) rfl
  | probeFailed sent =>
    exact delivers.failed rfl settings sent
      (finish_more (happenings_afterSend w _ _) (by exact isOpen) _) rfl

theorem met {occurrence : Occurrence} (meets : w.Meets occurrence v)
    (delivers : Delivers filter keyword w.stage w) : Delivers filter keyword w.stage v := by
  have outbound : v.outbound = w.outbound := by
    cases meets with
    | stream | refused | closeInput | pass | request => rfl
    | queued => exact (outbound_more (happenings_enqueue ..)).trans (List.append_nil _)
  refine ⟨meets.settings.trans delivers.settings, delivers.received, ?_⟩
  rw [outbound]
  exact delivers.outbound

end Delivers

/-! ## What the outbound happenings tell -/

theorem World.acceptedBytes_eq (w : World) :
    w.acceptedBytes = w.outbound.flatMap Happening.accepted := by
  unfold World.acceptedBytes World.outbound
  -- only outbound happenings carry accepted bytes, so the others may be left out
  induction w.happenings with
  | nil => rfl
  | cons happening happenings inductionHypothesis =>
    rw [List.flatMap_cons, List.filter_cons, inductionHypothesis]
    cases outbound : happening.isOutbound with
    | true => rfl
    | false =>
      have nothing : happening.accepted = [] := by
        unfold Happening.accepted
        split
        · cases outbound
        · rfl
      rw [nothing]
      rfl

theorem World.sentLines_eq (w : World) :
    w.sentLines = w.outbound.filterMap Happening.sentLine? := by
  unfold World.sentLines World.outbound
  rw [List.filterMap_filter]
  congr 1
  funext happening
  cases happening with
  | shown event => cases event <;> rfl
  | exchanged exchange => cases exchange <;> rfl
  | entered | queued => rfl

theorem Transport.Accepted.trace_accepted {payload rest : Bytes} (op : Operation)
    (accepted : Accepted payload rest) :
    (accepted.trace op).flatMap Happening.accepted = accepted.pieces.flatten := by
  simp [Accepted.trace, Accepted.exchanges, List.flatMap_map, Happening.accepted, List.flatMap_id']

theorem Transport.Accepted.trace_sentLine {payload rest : Bytes} (op : Operation)
    (accepted : Accepted payload rest) :
    (accepted.trace op).filterMap Happening.sentLine? = [] := by
  simp [Accepted.trace, Accepted.exchanges, Happening.sentLine?]

theorem Delivery.trace_accepted (delivery : Delivery filter keyword) :
    delivery.trace.flatMap Happening.accepted = delivery.payload.bytes filter := by
  have whole := delivery.accepted.whole
  rw [List.append_nil] at whole
  have quiet : delivery.payload.confirmation.flatMap Happening.accepted = [] := by
    cases delivery.payload <;> rfl
  rw [Delivery.trace, List.flatMap_append, List.flatMap_cons, Accepted.trace_accepted, quiet, whole]
  exact List.append_nil _

theorem Delivery.trace_sentLine (delivery : Delivery filter keyword) :
    delivery.trace.filterMap Happening.sentLine? = delivery.payload.text?.toList := by
  rw [Delivery.trace, List.filterMap_append, Accepted.trace_sentLine]
  cases delivery.payload <;> rfl

theorem Remainder.trace_accepted {bytes : Bytes} {trace : List Happening}
    (remainder : Remainder filter keyword s bytes trace) :
    trace.flatMap Happening.accepted = bytes := by
  cases remainder with
  | nothing => rfl
  | pending _ _ accepted => exact accepted.trace_accepted _
  | failed _ accepted breaks =>
    rw [List.flatMap_append, accepted.trace_accepted]
    cases breaks <;> exact List.append_nil _

theorem Remainder.trace_sentLine {bytes : Bytes} {trace : List Happening}
    (remainder : Remainder filter keyword s bytes trace) :
    trace.filterMap Happening.sentLine? = [] := by
  cases remainder with
  | nothing => rfl
  | pending _ _ accepted => exact accepted.trace_sentLine _
  | failed _ accepted _ =>
    rw [List.filterMap_append, accepted.trace_sentLine]
    rfl

/-! ## All that a session writes -/

/-- Whatever happens in whatever order, what a session writes is whole payloads one after the other,
    each in pieces of any size, flushed once and then confirmed if it is a line, and at the end at
    most the front of one more payload that is pending or failed.  So the bytes that the stream
    accepted are those of the payloads and of that front, and the lines among the payloads are the
    lines that the operator was told were sent. -/
theorem World.follow_deliveries (stream : Stream) (options : Options) (filter : Filter) (now : Nat)
    (course : List Occurrence) :
    let w := (World.opened stream options filter now).follow course
    ∃ (deliveries : List (Delivery filter options.quitKeyword)) (bytes : Bytes)
      (trace : List Happening),
      Remainder filter options.quitKeyword w.stage bytes trace ∧
      w.outbound = deliveries.flatMap Delivery.trace ++ trace ∧
      w.acceptedBytes = deliveries.flatMap (fun delivery => delivery.payload.bytes filter) ++ bytes ∧
      w.sentLines = deliveries.filterMap fun delivery => delivery.payload.text? := by
  intro w
  have delivers : Delivers filter options.quitKeyword w.stage w :=
    World.follow_keeps Delivers.turn Delivers.met (World.sane_opened stream options filter now)
      (.opened stream options filter now) course
  obtain ⟨deliveries, bytes, trace, remainder, shape⟩ := delivers.outbound
  refine ⟨deliveries, bytes, trace, remainder, shape, ?_, ?_⟩
  · rw [World.acceptedBytes_eq, shape, List.flatMap_append, remainder.trace_accepted,
      List.flatMap_assoc]
    simp only [Delivery.trace_accepted]
  · rw [World.sentLines_eq, shape, List.filterMap_append, remainder.trace_sentLine,
      List.append_nil, List.filterMap_flatMap, List.filterMap_eq_flatMap_toList]
    simp only [Delivery.trace_sentLine]

end Lifeline
