import Lifeline.Proofs.Session.Timekeeping

/-! # When a session sends

The history of a session tells when it sent something: `Exchange.completed?` marks the flush that
completes a send, `Record.isProbing` what is asked of the stream for a probe, and `lastSend` is the
time of the latest send that was completed.

`Stage.Sends` says once what a turn of the loop can do to the stream and to the clock, and
`Turn.sends` that every turn does no more.  `AtEach` speaks of each record together with those before
it, and of each occurrence of a course together with those before it.
-/

namespace Lifeline

/-! ## Each element with those before it -/

/-- Every element of a list, together with all that stand before it, has a property. -/
def AtEach {α : Type} (P : List α → α → Prop) (elements : List α) : Prop :=
  ∀ before element after, elements = before ++ element :: after → P before element

namespace AtEach

variable {α : Type} {P : List α → α → Prop}

theorem nil : AtEach P [] := by
  intro before element after split
  simp at split

theorem append {old new : List α} (front : AtEach P old)
    (back : AtEach (fun before element => P (old ++ before) element) new) :
    AtEach P (old ++ new) := by
  intro before element after split
  obtain ⟨left, rfl, rest⟩ | ⟨left, rfl, rest⟩ := List.append_eq_append_iff.mp split
  · exact back left element after rest
  · cases left with
    | nil => simpa using back [] element after (by simpa using rest.symm)
    | cons first left =>
      obtain ⟨rfl, rfl⟩ : element = first ∧ after = left ++ new := by simpa using rest
      exact front before element left rfl

theorem map {β : Type} {f : β → α} {elements : List β}
    (all : AtEach (fun before element => P (before.map f) (f element)) elements) :
    AtEach P (elements.map f) := by
  intro before element after split
  obtain ⟨front, back, rfl, rfl, rest⟩ := List.map_eq_append_iff.mp split
  obtain ⟨middle, after, rfl, rfl, rfl⟩ := List.map_eq_cons_iff.mp rest
  exact all front middle after rfl

theorem of_forall {elements : List α} (all : ∀ element ∈ elements, ∀ before, P before element) :
    AtEach P elements := by
  rintro before element after rfl
  exact all element (by simp) before

theorem cons_iff {first : α} {rest : List α} :
    AtEach P (first :: rest) ↔
      P [] first ∧ AtEach (fun before element => P (first :: before) element) rest := by
  constructor
  · intro all
    refine ⟨all [] first rest rfl, fun before element after split => ?_⟩
    exact all (first :: before) element after (by rw [split]; rfl)
  · rintro ⟨here, later⟩ before element after split
    cases before with
    | nil =>
      obtain ⟨rfl, -⟩ : first = element ∧ _ := by simpa using split
      exact here
    | cons other before =>
      obtain ⟨rfl, rest⟩ : first = other ∧ _ := by simpa using split
      exact later before element after rest

instance instDecidable : {P : List α → α → Prop} → [∀ before, DecidablePred (P before)] →
    (elements : List α) → Decidable (AtEach P elements)
  | _, _, [] => .isTrue nil
  | P, _, first :: rest =>
    have := instDecidable (P := fun before element => P (first :: before) element) rest
    decidable_of_iff _ cons_iff.symm

end AtEach

/-! ## Sends in the history -/

namespace Exchange

/-- The operation for which the stream was asked to write or to flush. -/
def outbound? : Exchange → Option Operation
  | .wrote op _ | .writeFailed op _ | .flushed op _ => some op
  | .read _ | .readFailed _ | .shutDown _ => none

/-- The operation whose send this completes. -/
def completed? : Exchange → Option Operation
  | .flushed op none => some op
  | _ => none

end Exchange

namespace Happening

def outbound? : Happening → Option Operation
  | .exchanged exchange => exchange.outbound?
  | _ => none

def completed? : Happening → Option Operation
  | .exchanged exchange => exchange.completed?
  | _ => none

theorem outbound?_of_completed? {happening : Happening} {op : Operation}
    (completed : happening.completed? = some op) : happening.outbound? = some op := by
  unfold completed? Exchange.completed? at completed
  split at completed
  · split at completed
    · exact completed
    · cases completed
  · cases completed

theorem incomplete_of_silent {happening : Happening} (silent : happening.outbound? = none) :
    happening.completed? = none := by
  cases completed : happening.completed? with
  | none => rfl
  | some op =>
    rw [outbound?_of_completed? completed] at silent
    cases silent

end Happening

namespace Record

def completed? (record : Record) : Option Operation := record.what.completed?

/-- Whether the stream was asked to write or flush a probe. -/
def isProbing (record : Record) : Bool := record.what.outbound? == some .heartbeat

end Record

/-- The time of the latest of the sends that were completed, or of the creation before them. -/
def lastSend (created : Nat) (records : List Record) : Nat :=
  records.foldl
    (fun latest record => if record.completed?.isSome then max latest record.time else latest) created

theorem lastSend_append (created : Nat) (records later : List Record) :
    lastSend created (records ++ later) = lastSend (lastSend created records) later :=
  List.foldl_append

theorem lastSend_eq_self (created : Nat) {records : List Record}
    (incomplete : ∀ record ∈ records, record.completed? = none) :
    lastSend created records = created := by
  induction records with
  | nil => rfl
  | cons record records inductionHypothesis =>
    have skipped : lastSend created (record :: records) = lastSend created records := by
      simp [lastSend, incomplete record (by simp)]
    rw [skipped, inductionHypothesis fun other member => incomplete other (by simp [member])]

theorem lastSend_cons (created : Nat) (record : Record) (records : List Record) :
    lastSend created (record :: records) = lastSend
      (if record.completed?.isSome then max created record.time else created) records := rfl

/-- A send that is completed now is the latest one. -/
theorem lastSend_eq_now {created now : Nat} {records : List Record} (past : created ≤ now)
    (times : ∀ record ∈ records, record.time = now)
    (completed : ∃ record ∈ records, record.completed? ≠ none) :
    lastSend created records = now := by
  induction records generalizing created with
  | nil => simp at completed
  | cons record records inductionHypothesis =>
    have later : ∀ other ∈ records, other.time = now :=
      fun other member => times other (by simp [member])
    rw [lastSend_cons, times record (by simp)]
    by_cases more : ∃ other ∈ records, other.completed? ≠ none
    · refine inductionHypothesis ?_ later more
      split <;> omega
    · -- this record is the last one that completes a send
      have incomplete : ∀ other ∈ records, other.completed? = none := by simpa using more
      have here : record.completed?.isSome = true := by
        obtain ⟨other, member, some⟩ := completed
        obtain rfl | member := List.mem_cons.mp member
        · exact Option.isSome_iff_ne_none.mpr some
        · exact absurd (incomplete other member) some
      rw [lastSend_eq_self _ incomplete, if_pos here]
      omega

namespace Transport.Sent

variable {op : Operation} {payload : Bytes} {progress : Progress} {exchanges : List Exchange}

theorem outbound (sent : Sent op payload progress exchanges) :
    ∀ exchange ∈ exchanges, exchange.outbound? = some op := by
  induction sent with
  | flushed => simp [Exchange.outbound?]
  | held => simp
  | broken breaks => cases breaks <;> simp [Exchange.outbound?]
  | piece _ _ inductionHypothesis => simpa [Exchange.outbound?] using inductionHypothesis

/-- Nothing but the last exchange of a send completes it. -/
theorem incomplete (sent : Sent op payload progress exchanges) :
    AtEach (fun before _ => ∀ exchange ∈ before, exchange.completed? = none) exchanges := by
  induction sent with
  | flushed | broken =>
    intro before exchange after split
    cases before <;> simp_all
  | held => exact .nil
  | piece _ _ inductionHypothesis =>
    intro before exchange after split
    cases before with
    | nil => simp
    | cons first before =>
      obtain ⟨rfl, rest⟩ : _ = first ∧ _ := by simpa using split
      simpa [Exchange.completed?] using inductionHypothesis before exchange after rest

theorem not_completed (sent : Sent op payload progress exchanges) (unfinished : progress ≠ .done) :
    ∀ exchange ∈ exchanges, exchange.completed? = none := by
  induction sent with
  | flushed => exact absurd rfl unfinished
  | held => simp
  | broken breaks => cases breaks <;> simp [Exchange.completed?]
  | piece _ _ inductionHypothesis =>
    simpa [Exchange.completed?] using inductionHypothesis unfinished

end Transport.Sent

/-! ## Sends of a turn -/

open World

namespace Stage

/-- The operation for which the stream is asked to write and to flush. -/
def operation? : Stage → Option Operation
  | .sendingLine _ _ _ => some .send
  | .sendingProbe _ _ => some .heartbeat
  | _ => none

/-- What is asked of the stream belongs to the send that is under way, which only the last exchange
    completes.  The interval then restarts: for a line now, for a probe when it was due. -/
structure Sends (s : Stage) (w v : World) (new : List Happening) : Prop where
  more : v.happenings = w.happenings ++ new
  outbound : ∀ happening ∈ new, ∀ op, happening.outbound? = some op → s.operation? = some op
  last : AtEach (fun before happening => happening.outbound?.isSome = true →
    ∀ earlier ∈ before, earlier.completed? = none) new
  clock : ((∀ happening ∈ new, happening.completed? = none) ∧
      v.session.clock = w.session.clock) ∨
    ((∃ happening ∈ new, happening.completed? ≠ none) ∧
      v.session.clock = w.session.clock.recordSend (s.due?.getD w.now))

namespace Sends

variable {s : Stage} {w v : World} {new : List Happening}

/-- Nothing is asked of the stream but a read or the shutdown. -/
theorem quiet (more : v.happenings = w.happenings ++ new)
    (silent : ∀ happening ∈ new, happening.outbound? = none)
    (clock : v.session.clock = w.session.clock) : Sends s w v new := by
  refine ⟨more, fun happening member op asked => ?_, ?_, .inl ⟨fun happening member => ?_, clock⟩⟩
  · simp [silent happening member] at asked
  · refine .of_forall fun happening member before asked => ?_
    simp [silent happening member] at asked
  · exact Happening.incomplete_of_silent (silent happening member)

theorem still (more : v.happenings = w.happenings) (clock : v.session.clock = w.session.clock) :
    ∃ new, Sends s w v new := ⟨[], quiet (by simp [more]) (by simp) clock⟩

theorem ends (isOpen : v.session.transport.closed = false)
    (more : v.happenings = w.happenings ++ new)
    (silent : ∀ happening ∈ new, happening.outbound? = none)
    (clock : v.session.clock = w.session.clock) (outcome : Outcome) :
    ∃ new, Sends s w (v.finish outcome) new := by
  refine ⟨_, quiet (finish_more more isOpen outcome) (fun happening member => ?_) ?_⟩
  · obtain member | member := List.mem_append.mp member
    · exact silent happening member
    · obtain rfl | rfl : happening = .entered outcome.state ∨ _ := by simpa using member
      · rfl
      · rfl
  · rw [session_finish isOpen]
    exact clock

variable {op : Operation} {payload : Bytes} {progress : Transport.Progress}
  {exchanges : List Exchange}

/-- The exchanges of a send, with what follows them in the same turn. -/
theorem send (sent : Transport.Sent op payload progress exchanges)
    (sending : s.operation? = some op) (tail : List Happening)
    (more : v.happenings = w.happenings ++ (exchanges.map .exchanged ++ tail))
    (silent : ∀ happening ∈ tail, happening.outbound? = none)
    (clock : if progress = .done then v.session.clock = w.session.clock.recordSend (s.due?.getD w.now)
      else v.session.clock = w.session.clock) :
    ∃ new, Sends s w v new := by
  refine ⟨_, more, fun happening member other asked => ?_, ?_, ?_⟩
  · obtain member | member := List.mem_append.mp member
    · obtain ⟨exchange, source, rfl⟩ := List.mem_map.mp member
      have same : some op = some other := (sent.outbound exchange source).symm.trans asked
      exact sending.trans same
    · simp [silent happening member] at asked
  · refine .append (.map fun before exchange after split _ earlier member => ?_)
      (.of_forall fun happening member before asked => ?_)
    · obtain ⟨exchange, source, rfl⟩ := List.mem_map.mp member
      exact sent.incomplete _ _ _ split exchange source
    · simp [silent happening member] at asked
  · split at clock
    · rename_i done
      subst done
      obtain ⟨accepted, rfl⟩ := sent.done_accepted
      exact .inr ⟨⟨.exchanged (.flushed op none), by simp, nofun⟩, clock⟩
    · rename_i unfinished
      refine .inl ⟨fun happening member => ?_, clock⟩
      obtain member | member := List.mem_append.mp member
      · obtain ⟨exchange, source, rfl⟩ := List.mem_map.mp member
        exact sent.not_completed unfinished exchange source
      · exact Happening.incomplete_of_silent (silent happening member)

/-- A send that fails ends the session. -/
theorem fails {fault : Fault} (sent : Transport.Sent op payload (.failed fault) exchanges)
    (sending : s.operation? = some op) (isOpen : w.session.transport.closed = false)
    (failure : Option (Cause × Nat)) :
    ∃ new, Sends s w ((w.afterSend failure exchanges).finish (.fault fault)) new := by
  have stillOpen : (w.afterSend failure exchanges).session.transport.closed = false := isOpen
  refine send sent sending _ (finish_more (happenings_afterSend ..) stillOpen _) ?_ ?_
  · simp [Happening.outbound?, Exchange.outbound?]
  · rw [session_finish stillOpen]
    rfl

end Sends

theorem Turn.sends {s t : Stage} {w v : World} (isOpen : w.session.transport.closed = false)
    (turn : Turn s w t v) : ∃ new, Sends s w v new := by
  have same : w.happenings = w.happenings ++ [] := (List.append_nil _).symm
  cases turn with
  | begin => exact ⟨_, .quiet (happenings_enter ..) (by simp [Happening.outbound?]) rfl⟩
  | wait | takeLine | takeClose | takeNothing | sendLine | noLine | noRead | hide | rest
  | sendProbe => exact Sends.still rfl rfl
  | stop | interrupt | close | readFailed => exact Sends.ends isOpen same (by simp) rfl _
  | quit | inputOver =>
    exact Sends.ends (v := w.emit _) isOpen (w.happenings_emit _) (by simp [Happening.outbound?]) rfl _
  | skip | display => exact ⟨_, .quiet (happenings_emit ..) (by simp [Happening.outbound?]) rfl⟩
  | read receives =>
    cases receives with
    | nothing => exact Sends.still rfl rfl
    | failed =>
      exact ⟨_, .quiet (happenings_exchange ..)
        (by simp [Happening.outbound?, Exchange.outbound?]) rfl⟩
    | bytes =>
      exact ⟨_, .quiet (happenings_fill ..)
        (by simp [Happening.outbound?, Exchange.outbound?]) rfl⟩
  | @lineSent _ text _ _ _ exchanges sent =>
    refine Sends.send sent rfl [.shown (.sent text)] ?_ ?_ rfl
    · rw [happenings_emit, happenings_recordSend, happenings_afterSend, List.append_assoc]
    · simp [Happening.outbound?]
  | lineHeld sent | probeHeld sent =>
    refine Sends.send sent rfl [] ?_ (by simp) rfl
    rw [happenings_moveTo, happenings_afterSend, List.append_nil]
  | probeSent sent =>
    refine Sends.send sent rfl [] ?_ (by simp) rfl
    rw [happenings_moveTo, happenings_recordSend, happenings_afterSend, List.append_nil]
  | lineFailed sent | probeFailed sent => exact Sends.fails sent rfl isOpen _

end Stage

/-! ## Courses that meet a condition -/

open Stage (Turn)

/-- A rule for the courses in which each occurrence meets a condition: every turn of the loop keeps
    the property, and so does all that comes from outside and meets the condition. -/
theorem World.follow_keeps_while {I : Stage → World → Prop} {P : World → Occurrence → Prop}
    (turned : ∀ {s t w v}, w.session.transport.closed = false → Turn s w t v → I s w → I t v)
    (met : ∀ {w occurrence}, Sane w.stage w → w.Meets occurrence (w.after occurrence) →
      P w occurrence → I w.stage w → I w.stage (w.after occurrence))
    {w : World} (sane : Sane w.stage w) (holds : I w.stage w) {course : List Occurrence}
    (admitted : AtEach (fun before occurrence => P (w.follow before) occurrence) course) :
    I (w.follow course).stage (w.follow course) := by
  induction course generalizing w with
  | nil => exact holds
  | cons occurrence course inductionHypothesis =>
    obtain ⟨first, later⟩ := AtEach.cons_iff.mp admitted
    refine inductionHypothesis (sane.after occurrence) ?_ later
    obtain meets | ⟨-, turns⟩ := after_cases sane occurrence
    · rw [meets.stage]
      exact met sane meets first holds
    · exact turns.keeps turned holds

end Lifeline
