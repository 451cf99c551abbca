import Lifeline.Proofs.Operator.Queue
import Lifeline.Proofs.Session.Course

/-! # What becomes of the operator's lines

The lines that were accepted into the queue decide alone what the operator is shown of them: one
reply for each, up to the first quit command (`Operator.replies`).  A session shows these replies in
order, whatever comes between them.

The invariant is `Serves`.  While the session runs, the lines that were replied to, the line in hand
and the lines that wait are together all that were accepted; `Standing` adds what is left of this
when the session has ended.
-/

namespace Lifeline

/-! ## Replies -/

namespace Operator

def reply (line : String) : Event := if line.isEmpty then .skipped else .sent line

/-- What the operator is shown of some lines, the quit command being the last that counts. -/
def replies (keyword : String) : List String → List Event
  | [] => []
  | line :: lines =>
    if isQuit line keyword then [.farewell] else reply line :: replies keyword lines

theorem replies_append {keyword : String} {lines : List String}
    (goesOn : ∀ line ∈ lines, isQuit line keyword = false) (later : List String) :
    replies keyword (lines ++ later) = lines.map reply ++ replies keyword later := by
  induction lines with
  | nil => rfl
  | cons line lines inductionHypothesis =>
    rw [List.cons_append, replies, goesOn line (by simp),
      inductionHypothesis fun other member => goesOn other (by simp [member])]
    rfl

theorem replies_eq_map {keyword : String} {lines : List String}
    (goesOn : ∀ line ∈ lines, isQuit line keyword = false) :
    replies keyword lines = lines.map reply := by
  have whole := replies_append goesOn []
  rwa [List.append_nil, replies, List.append_nil] at whole

end Operator

def Event.isReply : Event → Bool
  | .sent _ | .skipped | .farewell => true
  | .connected _ _ | .received _ | .peerClosed => false

def Happening.reply? : Happening → Option Event
  | .shown event => if event.isReply then some event else none
  | _ => none

theorem Happening.no_line (exchanges : List Exchange) :
    (exchanges.map exchanged).filterMap line? = [] :=
  filterMap_exchanged (fun _ => rfl) exchanges

theorem Happening.no_reply (exchanges : List Exchange) :
    (exchanges.map exchanged).filterMap reply? = [] :=
  filterMap_exchanged (fun _ => rfl) exchanges

namespace World

def replies (w : World) : List Event := w.happenings.filterMap Happening.reply?

theorem replies_more {w v : World} {new : List Happening}
    (more : v.happenings = w.happenings ++ new) :
    v.replies = w.replies ++ new.filterMap Happening.reply? :=
  filterMap_more more Happening.reply?

end World

/-! ## The invariant -/

def lineOf : Option Operator.Input → List String
  | some (.line text) => [text]
  | _ => []

def tellsClose : Option Operator.Input → Bool
  | some .closed => true
  | _ => false

namespace Stage

/-- The line that was taken and not replied to, if there is one. -/
def inHand : Stage → List String
  | .taken _ operator | .woken operator _ => lineOf operator
  | .sendingLine text _ _ => [text]
  | _ => []

def sawClose : Stage → Bool
  | .taken _ operator | .woken operator _ => tellsClose operator
  | _ => false

def outgoing? : Stage → Option String
  | .sendingLine text _ _ => some text
  | _ => none

end Stage

open World
open Stage (Turn)

/-- How the lines that were replied to stand to the lines that were accepted. -/
inductive Standing (keyword : String) (w : World) (replied : List String) : Stage → Prop where
  | running {s : Stage} (running : s.isOver = false)
      (queue : w.queuedLines = replied ++ (s.inHand ++ w.operator.lines))
      (shown : w.replies = replied.map Operator.reply) : Standing keyword w replied s
  | quit {line : String} {later : List String} (asked : Operator.isQuit line keyword = true)
      (queue : w.queuedLines = replied ++ line :: later)
      (shown : w.replies = replied.map Operator.reply ++ [.farewell]) :
      Standing keyword w replied (.ended .operatorQuit)
  | closed (queue : w.queuedLines = replied) (shown : w.replies = replied.map Operator.reply) :
      Standing keyword w replied (.ended .inputClosed)
  | cut {outcome : Outcome} {later : List String} (other : outcome ≠ .operatorQuit)
      (another : outcome ≠ .inputClosed) (queue : w.queuedLines = replied ++ later)
      (shown : w.replies = replied.map Operator.reply) : Standing keyword w replied (.ended outcome)

structure Serves (keyword : String) (s : Stage) (w : World) : Prop where
  given : w.session.quitKeyword = keyword
  closed : s.sawClose = true → w.operator.lines = [] ∧ w.operator.ended = true
  outgoing : ∀ text ∈ s.outgoing?, text.isEmpty = false ∧ Operator.isQuit text keyword = false
  lines : ∃ replied, (∀ line ∈ replied, Operator.isQuit line keyword = false) ∧
    Standing keyword w replied s

namespace Serves

variable {keyword : String} {s t : Stage} {w v : World} {new : List Happening}

/-- While a session runs, every line that was accepted is replied to, in hand or waiting. -/
theorem running (serves : Serves keyword s w) (running : s.isOver = false) :
    ∃ replied, (∀ line ∈ replied, Operator.isQuit line keyword = false) ∧
      w.queuedLines = replied ++ (s.inHand ++ w.operator.lines) ∧
      w.replies = replied.map Operator.reply := by
  obtain ⟨replied, goesOn, standing⟩ := serves.lines
  cases standing with
  | running _ queue shown => exact ⟨replied, goesOn, queue, shown⟩
  | quit | closed | cut => cases running

theorem keep (serves : Serves keyword s w) (running : s.isOver = false) (still : t.isOver = false)
    (settings : v.session.settings = w.session.settings)
    (more : v.happenings = w.happenings ++ new)
    (quiet : new.filterMap Happening.line? = []) (silent : new.filterMap Happening.reply? = [])
    (lines : t.inHand ++ v.operator.lines = s.inHand ++ w.operator.lines)
    (closed : t.sawClose = true → v.operator.lines = [] ∧ v.operator.ended = true)
    (outgoing : ∀ text ∈ t.outgoing?, text.isEmpty = false ∧ Operator.isQuit text keyword = false) :
    Serves keyword t v := by
  obtain ⟨replied, goesOn, queue, shown⟩ := serves.running running
  refine ⟨(congrArg Prod.snd settings).trans serves.given, closed, outgoing, replied, goesOn,
    .running still ?_ ?_⟩
  · rw [queuedLines_more more, quiet, List.append_nil, queue, lines]
  · rw [replies_more more, silent, List.append_nil, shown]

theorem answer (serves : Serves keyword s w) (running : s.isOver = false) (still : t.isOver = false)
    (settings : v.session.settings = w.session.settings)
    (more : v.happenings = w.happenings ++ new) {text : String} (held : s.inHand = [text])
    (free : t.inHand = []) (goesOn : Operator.isQuit text keyword = false)
    (quiet : new.filterMap Happening.line? = [])
    (reply : new.filterMap Happening.reply? = [Operator.reply text])
    (lines : v.operator.lines = w.operator.lines) (awaited : t.sawClose = false)
    (idle : t.outgoing? = none) : Serves keyword t v := by
  obtain ⟨replied, earlier, queue, shown⟩ := serves.running running
  refine ⟨(congrArg Prod.snd settings).trans serves.given, ?_, ?_, replied ++ [text], ?_,
    .running still ?_ ?_⟩
  · rw [awaited]
    nofun
  · rw [idle]
    nofun
  · intro line member
    obtain old | new := List.mem_append.mp member
    · exact earlier line old
    · exact List.mem_singleton.mp new ▸ goesOn
  · rw [queuedLines_more more, quiet, List.append_nil, queue, held, free, lines]
    simp
  · rw [replies_more more, reply, shown, List.map_append]
    rfl

/-- The end of a session replies to no line, so only what was shown just before it counts. -/
theorem finish_replies (more : v.happenings = w.happenings ++ new)
    (isOpen : v.session.transport.closed = false) (outcome : Outcome)
    (quiet : new.filterMap Happening.line? = []) :
    (v.finish outcome).queuedLines = w.queuedLines ∧
      (v.finish outcome).replies = w.replies ++ new.filterMap Happening.reply? := by
  have ended := finish_more more isOpen outcome
  constructor
  · rw [queuedLines_more ended, List.filterMap_append, quiet]
    exact List.append_nil _
  · rw [replies_more ended, List.filterMap_append]
    exact congrArg (w.replies ++ ·) (List.append_nil _)

/-- A session that ends for a reason that is not the operator's may leave lines behind. -/
theorem cut (serves : Serves keyword s w) (running : s.isOver = false)
    (more : v.happenings = w.happenings ++ new) (isOpen : v.session.transport.closed = false)
    (settings : v.session.settings = w.session.settings)
    (quiet : new.filterMap Happening.line? = []) (silent : new.filterMap Happening.reply? = [])
    {outcome : Outcome} (other : outcome ≠ .operatorQuit) (another : outcome ≠ .inputClosed) :
    Serves keyword (.ended outcome) (v.finish outcome) := by
  obtain ⟨replied, goesOn, queue, shown⟩ := serves.running running
  obtain ⟨lines, replies⟩ := finish_replies more isOpen outcome quiet
  refine ⟨(congrArg Prod.snd settings).trans serves.given, nofun, nofun, replied, goesOn,
    .cut other another (lines.trans queue) ?_⟩
  rw [replies, silent, List.append_nil, shown]

theorem frame (serves : Serves keyword s w)
    (settings : v.session.settings = w.session.settings)
    (queued : v.queuedLines = w.queuedLines) (replies : v.replies = w.replies)
    (lines : v.operator.lines = w.operator.lines)
    (closed : s.sawClose = true → v.operator.lines = [] ∧ v.operator.ended = true) :
    Serves keyword s v := by
  obtain ⟨replied, goesOn, standing⟩ := serves.lines
  refine ⟨(congrArg Prod.snd settings).trans serves.given, closed, serves.outgoing, replied, goesOn,
    ?_⟩
  cases standing with
  | running running queue shown =>
    refine .running running ?_ (replies.trans shown)
    rw [queued, queue, lines]
  | quit asked queue shown => exact .quit asked (queued.trans queue) (replies.trans shown)
  | closed queue shown => exact .closed (queued.trans queue) (replies.trans shown)
  | cut other another queue shown =>
    exact .cut other another (queued.trans queue) (replies.trans shown)

theorem opened (stream : Stream) (options : Options) (filter : Filter) (now : Nat) :
    Serves options.quitKeyword .created (World.opened stream options filter now) :=
  ⟨rfl, nofun, nofun, [], nofun, .running rfl rfl rfl⟩

/-- No turn skips a line, replies to one twice or changes their order. -/
theorem turn (isOpen : w.session.transport.closed = false) (turn : Turn s w t v)
    (serves : Serves keyword s w) : Serves keyword t v := by
  have settings := turn.settings
  have same : w.happenings = w.happenings ++ [] := (List.append_nil _).symm
  cases turn with
  | begin =>
    exact serves.keep rfl rfl rfl (happenings_enter ..) rfl rfl rfl nofun nofun
  | wait | takeNothing | noLine | noRead | hide | rest | sendProbe =>
    exact serves.keep rfl rfl rfl same rfl rfl rfl nofun nofun
  | display =>
    exact serves.keep rfl rfl rfl (happenings_emit ..) rfl rfl rfl nofun nofun
  | stop | interrupt | readFailed =>
    exact serves.cut rfl same isOpen rfl rfl rfl (by simp) (by simp)
  | inputOver =>
    exact serves.cut rfl (happenings_emit ..) isOpen rfl rfl rfl (by simp) (by simp)
  | takeLine calm queued =>
    exact serves.keep rfl rfl rfl same rfl rfl queued.symm nofun nofun
  | takeClose calm empty closed =>
    exact serves.keep rfl rfl rfl same rfl rfl rfl (fun _ => ⟨empty, closed⟩) nofun
  | read receives =>
    cases receives with
    | nothing => exact serves.keep rfl rfl rfl same rfl rfl rfl serves.closed nofun
    | failed => exact serves.keep rfl rfl rfl (happenings_exchange ..) rfl rfl rfl serves.closed nofun
    | bytes => exact serves.keep rfl rfl rfl (happenings_fill ..) rfl rfl rfl serves.closed nofun
  | close =>
    -- the queue was empty when it was found closed, so every line has been replied to
    obtain ⟨replied, goesOn, queue, shown⟩ := serves.running rfl
    obtain ⟨lines, replies⟩ := finish_replies same isOpen .inputClosed rfl
    refine ⟨serves.given, nofun, nofun, replied, goesOn, .closed ?_ ?_⟩
    · rw [lines, queue, (serves.closed rfl).1]
      exact List.append_nil _
    · rw [replies, shown]
      exact List.append_nil _
  | @quit _ text read asked =>
    obtain ⟨replied, goesOn, queue, shown⟩ := serves.running rfl
    obtain ⟨lines, replies⟩ :=
      finish_replies (w.happenings_emit .farewell) isOpen .operatorQuit rfl
    -- the lines behind the quit command stay in the queue for good
    have remaining : ((w.emit .farewell).finish .operatorQuit).queuedLines =
        replied ++ text :: w.operator.lines := lines.trans queue
    refine ⟨serves.given, nofun, nofun, replied, goesOn,
      .quit (serves.given ▸ asked) remaining ?_⟩
    rw [replies, shown]
    rfl
  | skip goesOn blank =>
    refine serves.answer rfl rfl rfl (happenings_emit ..) rfl rfl (serves.given ▸ goesOn) rfl ?_ rfl
      rfl rfl
    rw [Operator.reply, blank]
    rfl
  | sendLine goesOn filled =>
    refine serves.keep rfl rfl rfl same rfl rfl rfl nofun ?_
    rintro _ ⟨⟩
    exact ⟨filled, serves.given ▸ goesOn⟩
  | @lineSent _ text rest read failure exchanges sent =>
    obtain ⟨filled, goesOn⟩ := serves.outgoing text rfl
    -- the line stays in hand until the event that replies to it is shown
    have delivered : Serves keyword (.sendingLine text rest read)
        ((w.afterSend failure exchanges).recordSend w.now) :=
      serves.keep rfl rfl rfl (happenings_afterSend ..) (Happening.no_line _)
        (Happening.no_reply _) rfl nofun serves.outgoing
    refine delivered.answer rfl rfl rfl (happenings_emit ..) rfl rfl goesOn rfl ?_ rfl rfl rfl
    rw [Operator.reply, filled]
    rfl
  | lineHeld sent =>
    exact serves.keep rfl rfl rfl (happenings_afterSend ..) (Happening.no_line _)
      (Happening.no_reply _) rfl nofun serves.outgoing
  | probeSent sent | probeHeld sent =>
    exact serves.keep rfl rfl rfl (happenings_afterSend ..) (Happening.no_line _)
      (Happening.no_reply _) rfl nofun nofun
  | @lineFailed _ text rest read failure exchanges fault sent =>
    have more := happenings_afterSend w failure exchanges
    exact serves.cut rfl more isOpen rfl (Happening.no_line _) (Happening.no_reply _) (by simp)
      (by simp)
  | @probeFailed _ rest due failure exchanges fault sent =>
    have more := happenings_afterSend w failure exchanges
    exact serves.cut rfl more isOpen rfl (Happening.no_line _) (Happening.no_reply _) (by simp)
      (by simp)

theorem met {occurrence : Occurrence} (meets : w.Meets occurrence v)
    (serves : Serves keyword w.stage w) : Serves keyword w.stage v := by
  cases meets with
  | stream | refused | pass | request => exact serves.frame rfl rfl rfl rfl serves.closed
  | closeInput =>
    exact serves.frame rfl rfl rfl rfl fun saw => ⟨(serves.closed saw).1, rfl⟩
  | @queued text running awaited =>
    have more := w.happenings_enqueue text
    have going : w.stage.isOver = false := w.stage_isOver.trans running
    obtain ⟨replied, goesOn, queue, shown⟩ := serves.running going
    refine ⟨serves.given, fun saw => ?_, serves.outgoing, replied, goesOn, .running going ?_ ?_⟩
    -- no line is accepted after the input was closed
    · rw [(serves.closed saw).2] at awaited
      cases awaited
    · rw [queuedLines_more more, queue, List.append_assoc, List.append_assoc]
      rfl
    · rw [replies_more more, shown]
      exact List.append_nil _

theorem replies_whole {outcome : Outcome} (serves : Serves keyword (.ended outcome) w)
    (settled : outcome = .operatorQuit ∨ outcome = .inputClosed) :
    w.replies = Operator.replies keyword w.queuedLines := by
  obtain ⟨replied, goesOn, standing⟩ := serves.lines
  cases standing with
  | running running => cases running
  | quit asked queue shown =>
    rw [queue, shown, Operator.replies_append goesOn, Operator.replies, asked]
    rfl
  | closed queue shown => rw [queue, shown, Operator.replies_eq_map goesOn]
  | cut other another =>
    obtain quit | closed := settled
    · exact absurd quit other
    · exact absurd closed another

theorem replies_prefix (serves : Serves keyword s w) :
    w.replies <+: Operator.replies keyword w.queuedLines := by
  obtain ⟨replied, goesOn, standing⟩ := serves.lines
  cases standing with
  | running _ queue shown | cut _ _ queue shown =>
    rw [queue, shown, Operator.replies_append goesOn]
    exact List.prefix_append ..
  -- a session that the operator ended has replied to all there was to reply to
  | quit => exact ⟨[], (List.append_nil _).trans (serves.replies_whole (.inl rfl))⟩
  | closed => exact ⟨[], (List.append_nil _).trans (serves.replies_whole (.inr rfl))⟩

end Serves

/-! ## All that a session replies -/

/-- Whatever happens in whatever order, the operator is shown a front of the replies that the
    accepted lines call for, and all of them when the session ends because the operator quit or
    closed the input.  While the session runs, the accepted lines are those that were replied to,
    the line in hand and those that wait.  A line is the same whether the session waited for it or
    found it. -/
theorem World.follow_replies (stream : Stream) (options : Options) (filter : Filter) (now : Nat)
    (course : List Occurrence) :
    let w := (World.opened stream options filter now).follow course
    w.replies <+: Operator.replies options.quitKeyword w.queuedLines ∧
    (w.stage = .ended .operatorQuit ∨ w.stage = .ended .inputClosed →
      w.replies = Operator.replies options.quitKeyword w.queuedLines) ∧
    (w.stage.isOver = false → ∃ replied,
      w.queuedLines = replied ++ (w.stage.inHand ++ w.operator.lines) ∧
      w.replies = Operator.replies options.quitKeyword replied ∧
      w.replies.length = replied.length) ∧
    ∀ queue : Operator.Queue,
      queue.take = (queue.tryTake.1.elim .waiting .ready, queue.tryTake.2) := by
  intro w
  have serves : Serves options.quitKeyword w.stage w :=
    World.follow_keeps Serves.turn Serves.met (World.sane_opened stream options filter now)
      (.opened stream options filter now) course
  refine ⟨serves.replies_prefix, ?_, ?_, Operator.Queue.take_eq_tryTake⟩
  · rintro (ended | ended)
    · rw [ended] at serves
      exact serves.replies_whole (.inl rfl)
    · rw [ended] at serves
      exact serves.replies_whole (.inr rfl)
  · intro running
    obtain ⟨replied, goesOn, queue, shown⟩ := serves.running running
    refine ⟨replied, queue, ?_, ?_⟩
    · rw [shown, Operator.replies_eq_map goesOn]
    · rw [shown, List.length_map]

end Lifeline
