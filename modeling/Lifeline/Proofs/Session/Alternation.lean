import Lifeline.Proofs.Session.Portions
import Lifeline.Proofs.Session.Quiescence
import Lifeline.Proofs.Session.Rendition
import Lifeline.Proofs.Session.Replies

/-! # Lines and reads take turns

When a wait ends, the session asks the operator's queue and the stream, both of them, and then it
handles one line and one read in this order.  Lines and bytes that are there at once are therefore
handled in turn, one line and one read in a cycle, until there are no more of the one; the other goes
on alone (`follow_alternation`).  However much there is of the one, it delays the other by no more than
one item.

`Stocked` says what a session has before it, `Alternates` what it has made of some lines and reads; a
cycle (`Stocked.cycle`) takes the first of each off the one and adds them to the other.
-/

namespace Lifeline

/-! ## The order of the events -/

/-- What the operator is shown of a read, which is nothing if it is a heartbeat. -/
def Filter.shown (filter : Filter) (chunk : Bytes) : List Event :=
  (filter.texts [chunk]).map .received

/-- The events of some lines and some reads that take turns, the lines first. -/
def Filter.alternation (filter : Filter) : List String → List Bytes → List Event
  | [], chunks => chunks.flatMap filter.shown
  | line :: lines, [] => Operator.reply line :: lines.map Operator.reply
  | line :: lines, chunk :: chunks =>
    Operator.reply line :: (filter.shown chunk ++ filter.alternation lines chunks)

theorem Filter.alternation_one (filter : Filter) (line? : Option String) (chunk? : Option Bytes) :
    filter.alternation line?.toList chunk?.toList =
      line?.toList.map Operator.reply ++ chunk?.toList.flatMap filter.shown := by
  cases line? <;> cases chunk? <;> simp [alternation]

/-- One turn of each, and then all the others. -/
theorem Filter.alternation_take (filter : Filter) (lines : List String) (chunks : List Bytes)
    (n : Nat) :
    filter.alternation (lines.take (n + 1)) (chunks.take (n + 1)) =
      filter.alternation (lines.take 1) (chunks.take 1) ++
        filter.alternation (lines.tail.take n) (chunks.tail.take n) := by
  have alone (lines : List String) : filter.alternation lines [] = lines.map Operator.reply := by
    cases lines <;> rfl
  cases lines with
  | nil => cases chunks <;> simp [alternation]
  | cons line lines => cases chunks <;> simp [alternation, alone]

/-- A write is pending or something has failed. -/
def Phase.isHindered : Phase → Bool
  | .sendingLine _ _ _ | .sendingProbe _ _ | .ended (.fault _) => true
  | _ => false

namespace Act

def line? : Act → Option String
  | .line text => some text
  | _ => none

def bytes : Act → Bytes
  | .stream (.arrive bytes) => bytes
  | _ => []

/-- Whether it brings a line or some bytes. -/
def isSupply : Act → Bool
  | .line _ | .stream (.arrive _) => true
  | _ => false

end Act

/-! ## What is left by the parts of a cycle -/

namespace World

variable {w v x : World} {new later : List Event}

/-- What the operator is shown of the outcome of a read, the end of input and failures apart. -/
def shownOf (w : World) : Option ReadOutcome → List Event
  | some (.ok count) => w.session.filter.shown (w.session.buffer.take count)
  | _ => []

/-- Parts of a cycle were handled that led to these events.  They leave what is to come, and all of
    the session but its clock and what its writes have used up. -/
structure GoesOn (w v : World) (new : List Event) : Prop where
  session : ∃ clock failure, v.session = { w.session with
    clock
    transport := { w.session.transport with
      stream := { w.session.transport.stream with writeFailure := failure } } }
  operator : v.operator = w.operator
  stop : v.stop = w.stop
  now : v.now = w.now
  reads : v.reads = w.reads
  events : v.events = w.events ++ new

namespace GoesOn

theorem refl (w : World) : GoesOn w w [] := ⟨⟨_, _, rfl⟩, rfl, rfl, rfl, rfl, (List.append_nil _).symm⟩

theorem trans (first : GoesOn w v new) (second : GoesOn v x later) : GoesOn w x (new ++ later) := by
  obtain ⟨clock, failure, same⟩ := first.session
  obtain ⟨clock', failure', same'⟩ := second.session
  refine ⟨⟨clock', failure', ?_⟩, second.operator.trans first.operator, second.stop.trans first.stop,
    second.now.trans first.now, second.reads.trans first.reads, ?_⟩
  · rw [same', same]
  · rw [second.events, first.events, List.append_assoc]

theorem moveTo (goesOn : GoesOn w v new) (phase : Phase) : GoesOn w { v with phase } new :=
  ⟨goesOn.session, goesOn.operator, goesOn.stop, goesOn.now, goesOn.reads, goesOn.events⟩

theorem emit (w : World) (event : Event) : GoesOn w (w.emit event) [event] :=
  ⟨⟨_, _, rfl⟩, rfl, rfl, rfl, reads_emit .., events_more (happenings_emit ..)⟩

theorem send (w : World) {op : Operation} {payload : Bytes} {progress : Transport.Progress}
    {exchanges : List Exchange} (sent : Transport.Sent op payload progress exchanges)
    (failure : Option (Cause × Nat)) (time : Nat) :
    GoesOn w ((w.afterSend failure exchanges).recordSend time) [] := by
  refine ⟨⟨_, _, rfl⟩, rfl, rfl, rfl, reads_afterSend w sent failure, ?_⟩
  have more := events_more (happenings_afterSend w failure exchanges)
  rwa [Happening.filterMap_exchanged fun _ => rfl] at more

variable (isOpen : w.session.transport.closed = false)

include isOpen

/-- A cycle that nothing hinders ends at the head of the loop. -/
theorem afterStream (free : w.afterStream.phase.isHindered = false) :
    w.afterStream.phase = .atHead ∧ GoesOn w w.afterStream [] := by
  unfold World.afterStream checkHeartbeat at free ⊢
  split at free
  · rename_i due
    obtain ⟨progress, failure, exchanges, sent, answer⟩ :=
      send_afterSend isOpen .heartbeat w.session.filter.probe
    rw [sendProbe, answer] at free
    rw [if_pos due, sendProbe, answer]
    cases progress with
    | done => exact ⟨rfl, (send w sent failure w.now).moveTo .atHead⟩
    | pending rest => cases free
    | failed fault => cases free
  · rename_i early
    rw [if_neg early]
    exact ⟨rfl, (refl w).moveTo .atHead⟩

theorem afterOperator {read : Option ReadOutcome} (alive : endsSession read = false)
    (free : (w.afterOperator read).phase.isHindered = false) :
    (w.afterOperator read).phase = .atHead ∧ GoesOn w (w.afterOperator read) (w.shownOf read) := by
  match read with
  | none => exact afterStream isOpen free
  | some (.error fault) => cases alive
  | some (.ok 0) => cases alive
  | some (.ok (n + 1)) =>
    cases hidden : w.session.filter.hides (w.session.buffer.take (n + 1)) with
    | true =>
      have silent : w.shownOf (some (.ok (n + 1))) = [] := by
        simp [shownOf, Filter.shown, Filter.texts, hidden]
      simp only [World.afterOperator, handleStream, hidden, if_true] at free ⊢
      rw [silent]
      exact afterStream isOpen free
    | false =>
      have told : w.shownOf (some (.ok (n + 1))) =
          [.received (Text.decodeLossy (w.session.buffer.take (n + 1)))] := by
        simp [shownOf, Filter.shown, Filter.texts, hidden]
      simp only [World.afterOperator, handleStream, hidden, Bool.false_eq_true, if_false] at free ⊢
      obtain ⟨atHead, goesOn⟩ := afterStream (w := w.emit _) isOpen free
      rw [told]
      exact ⟨atHead, (emit w _).trans goesOn⟩

theorem afterLine {text : String} {rest : Bytes} {read : Option ReadOutcome}
    (alive : endsSession read = false)
    (free : (World.afterLine text read (w.sendLine text rest)).phase.isHindered = false) :
    (World.afterLine text read (w.sendLine text rest)).phase = .atHead ∧
      GoesOn w (World.afterLine text read (w.sendLine text rest)) (.sent text :: w.shownOf read) := by
  obtain ⟨progress, failure, exchanges, sent, answer⟩ := send_afterSend isOpen .send rest
  rw [sendLine, answer] at free ⊢
  cases progress with
  | done =>
    have confirmed := (send w sent failure w.now).trans (emit _ (.sent text))
    obtain ⟨atHead, goesOn⟩ := afterOperator
      (w := ((w.afterSend failure exchanges).recordSend w.now).emit (.sent text)) isOpen alive free
    exact ⟨atHead, confirmed.trans goesOn⟩
  | pending left => cases free
  | failed fault => cases free

/-- What a cycle does with the line and the read that it found ready. -/
theorem dispatch {line? : Option String} {read : Option ReadOutcome}
    (stays : ∀ line ∈ line?, Operator.isQuit line w.session.quitKeyword = false)
    (alive : endsSession read = false)
    (free : (w.dispatch ⟨line?.map .line, read, false⟩).phase.isHindered = false) :
    (w.dispatch ⟨line?.map .line, read, false⟩).phase = .atHead ∧
      GoesOn w (w.dispatch ⟨line?.map .line, read, false⟩)
        (line?.toList.map Operator.reply ++ w.shownOf read) := by
  cases line? with
  | none => exact afterOperator isOpen alive free
  | some line =>
    have asked := stays line rfl
    cases blank : line.isEmpty with
    | true =>
      have answer : Operator.reply line = .skipped := by rw [Operator.reply, if_pos blank]
      simp only [Option.map_some, World.dispatch, handleOperator, asked, blank, Bool.false_eq_true,
        if_true, if_false] at free ⊢
      obtain ⟨atHead, goesOn⟩ := afterOperator (w := w.emit .skipped) isOpen alive free
      rw [Option.toList_some, List.map_singleton, answer]
      exact ⟨atHead, (emit w _).trans goesOn⟩
    | false =>
      have answer : Operator.reply line = .sent line := by
        rw [Operator.reply, if_neg (by simp [blank])]
      simp only [Option.map_some, World.dispatch, handleOperator, asked, blank, Bool.false_eq_true,
        if_false] at free ⊢
      rw [Option.toList_some, List.map_singleton, answer]
      exact afterLine isOpen alive free

end GoesOn

/-! ## A cycle -/

/-- A session that these lines and these bytes are waiting for, and to which nothing else is told. -/
structure Stocked (lines : List String) (bytes : Bytes) (w : World) : Prop where
  isOpen : w.session.transport.closed = false
  quiet : w.stop.requested = false
  operator : w.operator = { lines }
  inbound : w.session.transport.stream.inbound = bytes
  unended : w.session.transport.stream.ended = false
  healthy : w.session.transport.stream.readFailure = none

/-- What became of some lines and some reads that took turns. -/
structure Alternates (lines : List String) (chunks : List Bytes) (w v : World) : Prop where
  reads : v.reads = w.reads ++ chunks
  events : v.events = w.events ++ w.session.filter.alternation lines chunks
  now : v.now = w.now
  room : v.readRoom = w.readRoom
  settings : v.session.settings = w.session.settings

/-- What the read of a cycle came to. -/
structure Fetches (lines : List String) (bytes : Bytes) (w : World) (read : Option ReadOutcome)
    (v : World) : Prop where
  ready : bytes ≠ [] → read.isSome = true
  alive : endsSession read = false
  stocked : Stocked lines (bytes.drop w.readRoom) v
  shown : v.shownOf read = ((portions w.readRoom bytes).take 1).flatMap w.session.filter.shown
  reads : v.reads = w.reads ++ (portions w.readRoom bytes).take 1
  events : v.events = w.events
  now : v.now = w.now
  room : v.readRoom = w.readRoom
  settings : v.session.settings = w.session.settings

namespace GoesOn

theorem room (goesOn : GoesOn w v new) : v.readRoom = w.readRoom := by
  obtain ⟨clock, failure, same⟩ := goesOn.session
  rw [readRoom, same]
  rfl

theorem settings (goesOn : GoesOn w v new) : v.session.settings = w.session.settings := by
  obtain ⟨clock, failure, same⟩ := goesOn.session
  rw [same]
  rfl

end GoesOn

namespace Stocked

variable {lines : List String} {bytes : Bytes}

theorem calm (stocked : Stocked lines bytes w) : w.stop.interrupted = false := by
  have quiet := stocked.quiet
  simp only [Stop.requested, Bool.or_eq_false_iff] at quiet
  exact quiet.1

theorem goesOn (stocked : Stocked lines bytes w) (goesOn : GoesOn w v new) :
    Stocked lines bytes v := by
  obtain ⟨clock, failure, same⟩ := goesOn.session
  refine ⟨?_, ?_, goesOn.operator.trans stocked.operator, ?_, ?_, ?_⟩
  · rw [same]
    exact stocked.isOpen
  · rw [goesOn.stop]
    exact stocked.quiet
  · rw [same]
    exact stocked.inbound
  · rw [same]
    exact stocked.unended
  · rw [same]
    exact stocked.healthy

theorem tryTake (stocked : Stocked lines bytes w) :
    w.operator.tryTake = (lines.head?.map .line, { lines := lines.tail }) := by
  rw [stocked.operator]
  cases lines <;> rfl

theorem asked (stocked : Stocked lines bytes w) : Stocked lines.tail bytes w.asked :=
  ⟨stocked.isOpen, stocked.quiet, congrArg Prod.snd stocked.tryTake, stocked.inbound,
    stocked.unended, stocked.healthy⟩

/-- With nothing to read, a session that asks for a read is left as it is. -/
theorem receive_nothing (stocked : Stocked lines [] w) : w.receive = (none, w) := by
  have receives := receive_receives stocked.isOpen
  show (w.receive.1, w.receive.2) = _
  generalize w.receive.1 = read at receives
  generalize w.receive.2 = y at receives
  cases receives with
  | nothing => rfl
  | failed received => exact absurd stocked.healthy received.failed_broken
  | bytes received =>
    cases received with
    | endOfInput _ _ ended =>
      rw [stocked.unended] at ended
      cases ended
    | chunk arrived => exact absurd stocked.inbound arrived

theorem receive_chunk (stocked : Stocked lines bytes w) (arrived : bytes ≠ []) :
    w.receive = (some (.ok (bytes.take w.readRoom).length),
      w.fill { w.session.transport.stream with inbound := bytes.drop w.readRoom }
        (bytes.take w.readRoom)) := by
  have receives := receive_receives stocked.isOpen
  show (w.receive.1, w.receive.2) = _
  generalize w.receive.1 = read at receives
  generalize w.receive.2 = y at receives
  cases receives with
  | nothing received =>
    cases received with
    | nothing empty => exact absurd (stocked.inbound.symm.trans empty) arrived
  | failed received => exact absurd (stocked.inbound.symm.trans received.failed_drained) arrived
  | bytes received =>
    cases received with
    | endOfInput empty => exact absurd (stocked.inbound.symm.trans empty) arrived
    | chunk _ front back =>
      rw [stocked.inbound] at front back
      rw [front, back]
      rfl

/-- The read of a cycle takes the first portion of what waits, if anything does. -/
theorem receive (stocked : Stocked lines bytes w) (spacious : 0 < w.readRoom) :
    Fetches lines bytes w w.receive.1 w.receive.2 := by
  by_cases arrived : bytes = []
  · subst arrived
    rw [stocked.receive_nothing]
    refine ⟨fun waits => absurd rfl waits, rfl, ?_, ?_, ?_, rfl, rfl, rfl, rfl⟩
    · rwa [List.drop_nil]
    · rw [portions_nil]
      rfl
    · rw [portions_nil]
      exact (List.append_nil _).symm
  · have receives := receive_receives stocked.isOpen
    rw [stocked.receive_chunk arrived] at receives ⊢
    have first : (portions w.readRoom bytes).take 1 = [bytes.take w.readRoom] := by
      rw [portions_eq spacious arrived]
      rfl
    have alive : endsSession (some (.ok (bytes.take w.readRoom).length)) = false := by
      have filled : (bytes.take w.readRoom).length ≠ 0 := by
        have length := List.length_pos_iff.mpr arrived
        rw [List.length_take]
        omega
      obtain ⟨n, more⟩ := Nat.exists_eq_succ_of_ne_zero filled
      rw [more]
      rfl
    refine ⟨fun _ => rfl, alive, ?_, ?_, ?_, ?_, rfl, (receives.portioned spacious).2, rfl⟩
    · exact ⟨stocked.isOpen, stocked.quiet, stocked.operator, rfl, stocked.unended, stocked.healthy⟩
    · -- the front of the buffer is what the read has just put there
      rw [first, List.flatMap_singleton, shownOf, session_fill, List.take_left]
    · rw [first]
      exact reads_more (happenings_fill ..)
    · exact (events_more (happenings_fill ..)).trans (List.append_nil _)

/-- A cycle that finds something ready takes a line and a read, as far as there are any, and goes
    back to the head of the loop unless a write hinders it. -/
theorem cycle (stocked : Stocked lines bytes w) (spacious : 0 < w.readRoom)
    (stays : ∀ line ∈ lines, Operator.isQuit line w.session.quitKeyword = false) {deadline : Nat}
    (waiting : w.phase = .waiting deadline) (ready : lines ≠ [] ∨ bytes ≠ []) :
    ∃ v, w.advance? = some v ∧ (v.phase.isHindered = false →
      v.phase = .atHead ∧ Stocked lines.tail (bytes.drop w.readRoom) v ∧
      Alternates (lines.take 1) ((portions w.readRoom bytes).take 1) w v) := by
  have taken : w.operator.tryTake.1 = lines.head?.map .line := congrArg Prod.fst stocked.tryTake
  have fetches := stocked.asked.receive spacious
  have roused : w.IsRoused deadline := by
    obtain filled | arrived := ready
    · obtain ⟨line, others, rfl⟩ := List.exists_cons_of_ne_nil filled
      exact .inl (by rw [taken]; rfl)
    · exact .inr (.inl (fetches.ready arrived))
  have woke : w.advance? = some
      (w.asked.receive.2.dispatch ⟨lines.head?.map .line, w.asked.receive.1, false⟩) := by
    rw [advance_waiting waiting, wake?_of_roused stocked.calm roused, woken, taken]
    rfl
  generalize w.asked.receive.1 = read at fetches woke
  generalize w.asked.receive.2 = y at fetches woke
  have firstStays : ∀ line ∈ lines.head?, Operator.isQuit line y.session.quitKeyword = false := by
    intro line first
    have keyword : y.session.quitKeyword = w.session.quitKeyword :=
      congrArg Prod.snd fetches.settings
    rw [keyword]
    exact stays line (List.mem_of_head? first)
  refine ⟨_, woke, fun free => ?_⟩
  obtain ⟨atHead, goesOn⟩ := GoesOn.dispatch fetches.stocked.isOpen firstStays fetches.alive free
  refine ⟨atHead, fetches.stocked.goesOn goesOn, ?_, ?_, goesOn.now.trans fetches.now,
    goesOn.room.trans fetches.room, goesOn.settings.trans fetches.settings⟩
  · exact goesOn.reads.trans fetches.reads
  · have one := w.session.filter.alternation_one lines.head? (portions w.readRoom bytes).head?
    rw [← List.take_one, ← List.take_one] at one
    have line : lines.take 1 = lines.head?.toList := List.take_one
    rw [goesOn.events, fetches.events, fetches.shown, one, line]
    rfl

end Stocked

/-! ## Some cycles -/

namespace Alternates

variable {lines : List String} {chunks : List Bytes}

theorem refl (w : World) : Alternates [] [] w w :=
  ⟨(List.append_nil _).symm, (List.append_nil _).symm, rfl, rfl, rfl⟩

theorem moveTo (alternates : Alternates lines chunks w v) (phase : Phase) :
    Alternates lines chunks w { v with phase } :=
  ⟨alternates.reads, alternates.events, alternates.now, alternates.room, alternates.settings⟩

/-- What went before led to no events. -/
theorem after (first : Alternates [] [] w v) (later : Alternates lines chunks v x) :
    Alternates lines chunks w x := by
  have filter : v.session.filter = w.session.filter := congrArg Prod.fst first.settings
  refine ⟨?_, ?_, later.now.trans first.now, later.room.trans first.room,
    later.settings.trans first.settings⟩
  · rw [later.reads, first.reads, List.append_nil]
  · rw [later.events, first.events, filter]
    exact congrArg (· ++ _) (List.append_nil _)

/-- One turn of each, and then some more. -/
theorem next {n : Nat} (first : Alternates (lines.take 1) (chunks.take 1) w v)
    (later : Alternates (lines.tail.take n) (chunks.tail.take n) v x) :
    Alternates (lines.take (n + 1)) (chunks.take (n + 1)) w x := by
  have filter : v.session.filter = w.session.filter := congrArg Prod.fst first.settings
  refine ⟨?_, ?_, later.now.trans first.now, later.room.trans first.room,
    later.settings.trans first.settings⟩
  · rw [later.reads, first.reads, List.append_assoc]
    cases chunks <;> simp
  · rw [later.events, first.events, filter, List.append_assoc, ← Filter.alternation_take]

end Alternates

theorem portions_tail {room : Nat} (spacious : 0 < room) (bytes : Bytes) :
    (portions room bytes).tail = portions room (bytes.drop room) := by
  by_cases filled : bytes = []
  · simp [filled]
  · rw [portions_eq spacious filled, List.tail_cons]

/-- A session that begins a new wait, since no stop was asked for. -/
theorem Stocked.wait {lines : List String} {bytes : Bytes} (stocked : Stocked lines bytes w)
    (atHead : w.phase = .atHead) :
    w.advance? = some { w with phase := .waiting w.deadline } ∧
      Stocked lines bytes { w with phase := .waiting w.deadline } := by
  have next := advance_head atHead
  rw [if_neg (by simp [stocked.quiet])] at next
  exact ⟨next, stocked.isOpen, stocked.quiet, stocked.operator, stocked.inbound, stocked.unended,
    stocked.healthy⟩

/-- So many cycles take as many lines and as many reads, as far as there are any. -/
theorem Stocked.cycles {n : Nat} (some : 0 < n) {lines : List String} {bytes : Bytes}
    (stocked : Stocked lines bytes w) (spacious : 0 < w.readRoom)
    (stays : ∀ line ∈ lines, Operator.isQuit line w.session.quitKeyword = false) {deadline : Nat}
    (waiting : w.phase = .waiting deadline)
    (enough : n ≤ max lines.length (portions w.readRoom bytes).length)
    (free : ∀ moved < 2 * n, (moves moved w).phase.isHindered = false) :
    (moves (2 * n - 1) w).phase = .atHead ∧
      Stocked (lines.drop n) ((portions w.readRoom bytes).drop n).flatten (moves (2 * n - 1) w) ∧
      Alternates (lines.take n) ((portions w.readRoom bytes).take n) w (moves (2 * n - 1) w) := by
  -- by induction on the cycles, with the session at the first wait free
  induction n generalizing w lines bytes deadline with
  | zero => cases some
  | succ n inductionHypothesis =>
    have ready : lines ≠ [] ∨ bytes ≠ [] := by
      by_cases noLine : lines = []
      · refine .inr fun noByte => ?_
        rw [noLine, noByte, portions_nil] at enough
        simp at enough
      · exact .inl noLine
    obtain ⟨v, advanced, cycled⟩ := stocked.cycle spacious stays waiting ready
    have first : moves 1 w = v := moves_one advanced
    obtain ⟨atHead, later, one⟩ := cycled (first ▸ free 1 (by omega))
    have rest := portions_tail spacious bytes
    by_cases last : n = 0
    · subst last
      rw [first, List.drop_one, List.drop_one, rest, flatten_portions]
      exact ⟨atHead, later, one⟩
    · obtain ⟨again, waits⟩ := later.wait atHead
      let next : World := { v with phase := .waiting v.deadline }
      have moved (more : Nat) : moves (more + 2) w = moves more next := by
        rw [moves_succ advanced, moves_succ again]
      have room : next.readRoom = w.readRoom := one.room
      have nextStays : ∀ line ∈ lines.tail,
          Operator.isQuit line next.session.quitKeyword = false := by
        intro line member
        have keyword : next.session.quitKeyword = w.session.quitKeyword :=
          congrArg Prod.snd one.settings
        rw [keyword]
        exact stays line (List.mem_of_mem_tail member)
      have nextEnough : n ≤ max lines.tail.length
          (portions next.readRoom (bytes.drop w.readRoom)).length := by
        rw [room, ← rest, List.length_tail, List.length_tail]
        omega
      have nextFree : ∀ more < 2 * n, (moves more next).phase.isHindered = false := by
        intro more few
        rw [← moved]
        exact free (more + 2) (by omega)
      have whole := inductionHypothesis (Nat.pos_of_ne_zero last) waits (room ▸ spacious) nextStays rfl
        nextEnough nextFree
      rw [room, ← rest, ← moved, List.drop_tail, List.drop_tail,
        show 2 * n - 1 + 2 = 2 * (n + 1) - 1 by omega] at whole
      obtain ⟨ends, left, alternates⟩ := whole
      exact ⟨ends, left, .next (one.moveTo (.waiting v.deadline)) alternates⟩

/-! ## What comes at once -/

theorem take_take_append {α : Type} (n : Nat) (front back : List α) :
    (front.take n ++ back).take n = (front ++ back).take n := by
  by_cases few : front.length ≤ n
  · rw [List.take_of_length_le few]
  · rw [List.take_append, List.take_append, List.take_take, Nat.min_self, List.length_take]
    congr 2
    omega

namespace Stocked

variable {lines : List String} {bytes : Bytes}

/-- A line is added to those that wait, as long as there is room for it. -/
theorem enterLine (stocked : Stocked lines bytes w) (running : w.phase.isOver = false)
    (text : String) (few : lines.length ≤ Operator.capacity) :
    Stocked ((lines ++ [text]).take Operator.capacity) bytes (w.enterLine text).2 ∧
      Alternates [] [] w (w.enterLine text).2 := by
  have queue : w.operator.lines = lines := congrArg Operator.Queue.lines stocked.operator
  have awaited : w.operator.ended = false := congrArg Operator.Queue.ended stocked.operator
  rw [enterLine_eq, queue]
  by_cases free : lines.length < Operator.capacity
  · rw [if_pos ⟨running, awaited, free⟩, List.take_of_length_le (by simp; omega)]
    have more := happenings_enqueue w text
    refine ⟨⟨stocked.isOpen, stocked.quiet, ?_, stocked.inbound, stocked.unended, stocked.healthy⟩,
      reads_more more, events_more more, rfl, rfl, rfl⟩
    show ({ w.operator with lines := w.operator.lines ++ [text] } : Operator.Queue) = _
    rw [stocked.operator]
  · have full : lines.length = Operator.capacity := by omega
    rw [if_neg fun accepted => free accepted.2.2, ← full, List.take_left]
    exact ⟨stocked, .refl w⟩

/-- A batch of lines and bytes is what the session has before it: the bytes are all there, and of the
    lines as many as the queue can hold. -/
theorem applyAll {acts : List Act} (supply : ∀ act ∈ acts, act.isSupply = true)
    (stocked : Stocked lines bytes w) (running : w.phase.isOver = false)
    (few : lines.length ≤ Operator.capacity) :
    Stocked ((lines ++ acts.filterMap Act.line?).take Operator.capacity)
        (bytes ++ acts.flatMap Act.bytes) (w.applyAll acts).2 ∧
      Alternates [] [] w (w.applyAll acts).2 ∧ (w.applyAll acts).2.phase = w.phase := by
  induction acts generalizing w lines bytes with
  | nil =>
    rw [List.filterMap_nil, List.flatMap_nil, List.append_nil, List.append_nil,
      List.take_of_length_le few]
    exact ⟨stocked, .refl w, rfl⟩
  | cons act acts inductionHypothesis =>
    have others : ∀ act ∈ acts, act.isSupply = true := fun other member => supply other (by simp [member])
    have phase : (w.apply act).2.phase = w.phase := phase_apply w act
    have kind := supply act (by simp)
    cases act with
    | line text =>
      obtain ⟨entered, quiet⟩ := stocked.enterLine running text few
      obtain ⟨all, alternates, same⟩ := inductionHypothesis others entered (phase ▸ running)
        (by rw [List.length_take]; omega)
      rw [take_take_append, List.append_assoc] at all
      exact ⟨all, quiet.after alternates, same.trans phase⟩
    | stream change =>
      cases change with
      | arrive more =>
        have fed : Stocked lines (bytes ++ more) (w.apply (.stream (.arrive more))).2 :=
          ⟨stocked.isOpen, stocked.quiet, stocked.operator, congrArg (· ++ more) stocked.inbound,
            stocked.unended, stocked.healthy⟩
        have quiet : Alternates [] [] w (w.apply (.stream (.arrive more))).2 :=
          ⟨(List.append_nil _).symm, (List.append_nil _).symm, rfl, rfl, rfl⟩
        obtain ⟨all, alternates, same⟩ := inductionHypothesis others fed (phase ▸ running) few
        rw [List.append_assoc] at all
        exact ⟨all, quiet.after alternates, same.trans phase⟩
      | _ => cases kind
    | _ => cases kind

end Stocked

/-- Lines and bytes are there at once for a session that is suspended in its wait.  No stop is asked
    for, no line is a quit command, and a limit of zero, which makes a read look like the end of input,
    is not set.  Then each cycle of two moves, as long as no write is pending or fails, takes one line
    and one read: after so many cycles, up to the last that finds something, so many lines and so many
    reads have been handled in turn, and the others are still to come. -/
theorem follow_alternation (stream : Stream) (options : Options) (filter : Filter) (created : Nat)
    (course : List Occurrence) (acts : List Act) :
    let w := (opened stream options filter created).follow course
    let v := (w.applyAll acts).2
    let lines := (acts.filterMap Act.line?).take Operator.capacity
    let chunks := portions w.readRoom (acts.flatMap Act.bytes)
    w.IsSuspended → w.stop.requested = false →
    w.session.transport.stream.readLimit ≠ some 0 →
    (∀ act ∈ acts, act.isSupply = true) →
    (∀ line ∈ lines, Operator.isQuit line options.quitKeyword = false) →
    ∀ n, 0 < n → n ≤ max lines.length chunks.length →
      (∀ moved < 2 * n, (moves moved v).phase.isHindered = false) →
      let x := moves (2 * n - 1) v
      x.phase = .atHead ∧ x.now = w.now ∧
      x.operator.lines = lines.drop n ∧ x.session.transport.stream.inbound = (chunks.drop n).flatten ∧
      x.reads = w.reads ++ chunks.take n ∧
      x.events = w.events ++ filter.alternation (lines.take n) (chunks.take n) := by
  intro w v lines chunks suspended quiet unlimited supply stays n some enough free x
  have opening := sane_opened stream options filter created
  have sane : Sane w.stage w := opening.follow course
  obtain ⟨deadline, waiting⟩ := suspended.2
  have settings : w.session.settings = (filter, options.quitKeyword) := settings_follow opening course
  have spacious : 0 < w.readRoom :=
    readRoom_pos (follow_inflow stream options filter created course).room unlimited
  have idle : Stocked [] [] w := by
    have nothing := suspended.isQuiet sane
    have isOpen : w.session.transport.closed = false := sane.trans (by rw [stage, waiting]; rfl)
    have queue : w.operator = { lines := [] } := by
      obtain ⟨noLine, awaited⟩ := And.intro nothing.noLine nothing.awaited
      cases queue : w.operator
      simp_all
    exact ⟨isOpen, quiet, queue, nothing.noByte, nothing.unended, nothing.healthy⟩
  obtain ⟨stocked, before, phase⟩ :=
    idle.applyAll supply (by rw [waiting]; rfl) (Nat.zero_le _)
  have sameRoom : v.readRoom = w.readRoom := before.room
  have sameSettings := before.settings.trans settings
  have told : v.session.quitKeyword = options.quitKeyword := congrArg Prod.snd sameSettings
  obtain ⟨ends, left, alternates⟩ := stocked.cycles some (sameRoom ▸ spacious) (told ▸ stays)
    (phase.trans waiting) (sameRoom ▸ enough) free
  have given : w.session.filter = filter := congrArg Prod.fst settings
  have whole := before.after alternates
  rw [sameRoom] at left whole
  refine ⟨ends, whole.now, congrArg Operator.Queue.lines left.operator, left.inbound, whole.reads, ?_⟩
  rw [← given]
  exact whole.events

/-- Two lines, one of them blank, and three reads of one byte, one of them a heartbeat. -/
theorem follow_alternation_batch :
    let acts : List Act := [.line "a", .stream (.arrive [104, 0]), .line "", .stream (.arrive [105])]
    let w := (opened {} ⟨none, [0], 1, "quit"⟩ (.sentinel [0]) 0).follow [.begin, .move]
    let v := (w.applyAll acts).2
    w.IsSuspended ∧ (moves 5 v).phase = .atHead ∧ (moves 5 v).reads = [[104], [0], [105]] ∧
      (moves 5 v).events = [.sent "a", .received "h", .skipped, .received "i"] := by
  intro acts w v
  have suspended : w.IsSuspended := ⟨rfl, second, rfl⟩
  have cut : portions w.readRoom (acts.flatMap Act.bytes) = [[104], [0], [105]] := by
    show portions 1 [104, 0, 105] = _
    simp [portions]
  obtain ⟨ends, -, -, -, reads, events⟩ := follow_alternation {} ⟨none, [0], 1, "quit"⟩
    (.sentinel [0]) 0 [.begin, .move] acts suspended rfl (by decide) (by decide) (by decide) 3
    (by decide) (by rw [cut]; decide) (by decide)
  rw [cut] at reads events
  exact ⟨suspended, ends, reads, events⟩

end World

end Lifeline
