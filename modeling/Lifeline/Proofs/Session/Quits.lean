import Lifeline.Proofs.Config.Validation
import Lifeline.Proofs.Operator.Quit
import Lifeline.Proofs.Session.Replies
import Lifeline.Proofs.Session.Rest

/-! # Quitting

The quit command is one among the lines of the operator, and a session meets it where it takes the
lines, at the end of a wait.  It ends there with the farewell, whatever else is ready
(`after_move_of_quit`), and it ends in this way for no other line (`Serves.exists_quit`).  With
accepted settings the keyword is not blank, so of these lines none is (`follow_quit`).
-/

namespace Lifeline

open Operator (isQuit Spells)
open Text (OnlyBlank Pads Recased IsTrimmed)

/-! ## The keyword of accepted settings -/

theorem Config.not_onlyBlank_quitKeyword {c : Config} (accepted : c.validate = .ok ()) :
    ¬OnlyBlank c.quitKeyword := by
  obtain ⟨-, -, -, -, -, filled⟩ := c.validate_eq_ok_iff.mp accepted
  rw [← Text.isAllBlank_iff, filled]
  exact Bool.false_ne_true

namespace World

/-! ## Taking the quit command -/

theorem Receives.events {w v : World} {read : Option ReadOutcome} (receives : Receives w read v) :
    v.events = w.events := by
  cases receives with
  | nothing => rfl
  | failed => exact (events_more (happenings_exchange ..)).trans (List.append_nil _)
  | bytes => exact (events_more (happenings_fill ..)).trans (List.append_nil _)

theorem Receives.settings {w v : World} {read : Option ReadOutcome} (receives : Receives w read v) :
    v.session.settings = w.session.settings := by
  cases receives <;> rfl

theorem dispatch_of_quit {w : World} {line : String}
    (asked : isQuit line w.session.quitKeyword = true) (read : Option ReadOutcome) :
    w.dispatch { operator := some (.line line), stream := read } =
      (w.emit .farewell).finish .operatorQuit := by
  simp only [dispatch, handleOperator, asked, if_true, Bool.false_eq_true, if_false, afterLine]

/-- A session that finds the quit command at the end of its wait says farewell and ends.  What it
    read in the same cycle is dropped. -/
theorem after_move_of_quit {w : World} (sane : Sane w.stage w) {deadline : Nat}
    (waiting : w.phase = .waiting deadline) (calm : w.stop.interrupted = false) {line : String}
    {lines : List String} (queued : w.operator.lines = line :: lines)
    (asked : isQuit line w.session.quitKeyword = true) :
    (w.after .move).phase = .ended .operatorQuit ∧
      (w.after .move).events = w.events ++ [.farewell] := by
  have taken : w.operator.tryTake.1 = some (.line line) := by
    rw [Operator.Queue.tryTake, queued]
  have isOpen : w.asked.session.transport.closed = false :=
    sane.trans (congrArg (fun phase => phase.stage.isOver) waiting)
  have receives := receive_receives isOpen
  have moved : w.advance? = some ((w.asked.receive.2.emit .farewell).finish .operatorQuit) := by
    have keyword : w.asked.receive.2.session.quitKeyword = w.session.quitKeyword :=
      congrArg Prod.snd receives.settings
    rw [advance_waiting waiting, wake?_of_roused calm (.inl (by rw [taken]; rfl)), Option.map_some,
      woken, taken]
    exact congrArg some (dispatch_of_quit (keyword ▸ asked) _)
  have arrived : w.after .move = (w.asked.receive.2.emit .farewell).finish .operatorQuit := by
    rw [after, moved, Option.getD_some]
  rw [arrived]
  refine ⟨rfl, ?_⟩
  have stillOpen : (w.asked.receive.2.emit .farewell).session.transport.closed = false :=
    receives.closed.trans isOpen
  rw [events_more (finish_more (happenings_emit ..) stillOpen .operatorQuit), receives.events]
  rfl

end World

/-! ## What becomes of the quit command -/

namespace Operator

theorem farewell_not_mem_map_reply (lines : List String) : Event.farewell ∉ lines.map reply := by
  intro member
  obtain ⟨line, -, same⟩ := List.mem_map.mp member
  unfold reply at same
  split at same <;> cases same

theorem mem_of_sent_mem_map_reply {lines : List String} {text : String}
    (member : Event.sent text ∈ lines.map reply) : text ∈ lines := by
  obtain ⟨line, inside, same⟩ := List.mem_map.mp member
  unfold reply at same
  split at same <;> cases same
  exact inside

end Operator

namespace Serves

variable {keyword : String} {s : Stage} {w : World}

/-- A line that asks to quit is never sent. -/
theorem isQuit_of_sent (serves : Serves keyword s w) {text : String}
    (sent : .sent text ∈ w.replies) : isQuit text keyword = false := by
  obtain ⟨replied, goesOn, standing⟩ := serves.lines
  refine goesOn text (Operator.mem_of_sent_mem_map_reply ?_)
  cases standing with
  | running _ _ shown | closed _ shown | cut _ _ _ shown => rwa [shown] at sent
  | quit _ _ shown =>
    rw [shown, List.mem_append] at sent
    exact sent.resolve_right (by simp)

/-- A session that said farewell, or that ended because the operator quit, has taken the first quit
    command among the lines that were accepted. -/
theorem exists_quit (serves : Serves keyword s w)
    (quits : s = .ended .operatorQuit ∨ .farewell ∈ w.replies) :
    ∃ earlier line later, w.queuedLines = earlier ++ line :: later ∧ isQuit line keyword = true ∧
      ∀ other ∈ earlier, isQuit other keyword = false := by
  obtain ⟨replied, goesOn, standing⟩ := serves.lines
  have silent (shown : w.replies = replied.map Operator.reply) : s = .ended .operatorQuit :=
    quits.resolve_right (shown ▸ Operator.farewell_not_mem_map_reply replied)
  cases standing with
  | quit asked queue => exact ⟨replied, _, _, queue, asked, goesOn⟩
  | running running _ shown =>
    rw [silent shown] at running
    cases running
  | closed _ shown => cases silent shown
  | cut other _ _ shown =>
    cases silent shown
    exact absurd rfl other

end Serves

theorem World.mem_replies_of_mem_events {w : World} {event : Event} (isReply : event.isReply = true)
    (shown : event ∈ w.events) : event ∈ w.replies :=
  List.mem_filterMap.mpr ⟨_, Happening.mem_events.mp shown, if_pos isReply⟩

/-- Asking to quit is an equivalence of texts, which neither padding nor the case of a letter
    changes on either side.  Two texts are related exactly if what trimming leaves of them are as
    many characters, each of them the same letter, or, in bytes, the same once `A` to `Z` are made
    small.

    With accepted settings the lines that ask to quit are therefore the keyword in any padding and
    any case, and none of them is blank.  A session of these settings that finds such a line at the
    end of its wait says farewell and ends, and it never sends one; and a session that said farewell
    or ended in this way was given such a line, which was not blank, and none before it. -/
theorem World.follow_quit :
    Equivalence (fun line keyword : String => isQuit line keyword = true) ∧
    (∀ s t other : String, Pads s t ∨ Recased s t →
      isQuit t other = isQuit s other ∧ isQuit other t = isQuit other s) ∧
    (∀ line keyword : String, isQuit line keyword = true ↔
      ∃ a b, IsTrimmed a line ∧ IsTrimmed b keyword ∧ Recased a b) ∧
    (∀ line keyword : String, isQuit line keyword = true ↔
      (Text.encode (Text.trim line)).map Text.smallByte =
        (Text.encode (Text.trim keyword)).map Text.smallByte) ∧
    ∀ c : Config, c.validate = .ok () →
      (∀ line, isQuit line c.quitKeyword = true ↔ Spells c.quitKeyword line) ∧
      (∀ line, OnlyBlank line → isQuit line c.quitKeyword = false) ∧
      ∀ (stream : Stream) (filter : Filter) (created : Nat) (course : List Occurrence),
        let w := (opened stream c.options filter created).follow course
        (∀ deadline line lines, w.phase = .waiting deadline → w.stop.interrupted = false →
          w.operator.lines = line :: lines → Spells c.quitKeyword line →
          (w.after .move).phase = .ended .operatorQuit ∧
            (w.after .move).events = w.events ++ [.farewell]) ∧
        (∀ text, .sent text ∈ w.events → ¬Spells c.quitKeyword text) ∧
        (w.phase = .ended .operatorQuit ∨ .farewell ∈ w.events →
          ∃ earlier line later, w.queuedLines = earlier ++ line :: later ∧
            Spells c.quitKeyword line ∧ ¬OnlyBlank line ∧
            ∀ other ∈ earlier, ¬Spells c.quitKeyword other) := by
  refine ⟨Operator.isQuit_equivalence, ?_, fun _ _ => Operator.isQuit_iff_trimmed,
    fun _ _ => Operator.isQuit_iff_bytes, fun c accepted => ?_⟩
  · rintro s t other (pads | recased)
    · exact Operator.isQuit_eq_of_gist (Operator.gist_of_pads pads)
    · exact Operator.isQuit_eq_of_gist (Operator.gist_of_recased recased)
  have blankGoesOn (line : String) (blank : OnlyBlank line) : isQuit line c.quitKeyword = false :=
    Operator.isQuit_of_onlyBlank blank (c.not_onlyBlank_quitKeyword accepted)
  refine ⟨fun _ => Operator.isQuit_iff_spells, blankGoesOn, ?_⟩
  intro stream filter created course w
  have opening := sane_opened stream c.options filter created
  have sane : Sane w.stage w := opening.follow course
  have keyword : w.session.quitKeyword = c.quitKeyword :=
    congrArg Prod.snd (settings_follow opening course)
  have serves : Serves c.quitKeyword w.stage w :=
    follow_keeps Serves.turn Serves.met opening (.opened stream c.options filter created) course
  refine ⟨fun deadline line lines waiting calm queued spells => ?_, fun text sent spells => ?_,
    fun quits => ?_⟩
  · refine after_move_of_quit sane waiting calm queued ?_
    rw [keyword]
    exact Operator.isQuit_iff_spells.mpr spells
  · rw [← Operator.isQuit_iff_spells,
      serves.isQuit_of_sent (mem_replies_of_mem_events rfl sent)] at spells
    cases spells
  · have answered : w.stage = .ended .operatorQuit ∨ .farewell ∈ w.replies :=
      quits.imp (congrArg Phase.stage) (mem_replies_of_mem_events rfl)
    obtain ⟨earlier, line, later, queue, asked, goesOn⟩ := serves.exists_quit answered
    refine ⟨earlier, line, later, queue, Operator.isQuit_iff_spells.mp asked, fun blank => ?_,
      fun other member spells => ?_⟩
    · rw [blankGoesOn line blank] at asked
      cases asked
    · rw [← Operator.isQuit_iff_spells, goesOn other member] at spells
      cases spells

/-- A keyword that was given with a blank in front, as it is typed between blank characters of other
    kinds and in another case. -/
theorem World.follow_quit_padded :
    let c : Config := { heartbeatInterval := ⟨0⟩, quitKeyword := " Quit" }
    let w := (opened {} c.options (.sentinel (Text.encode c.heartbeatSentinel)) 0).follow
      [.begin, .move, .act (.line "\u2003qUiT\t")]
    c.validate = .ok () ∧ (w.after .move).phase = .ended .operatorQuit ∧
      (w.after .move).events = [.farewell] ∧ isQuit "\u3000\n" c.quitKeyword = false := by
  intro c w
  have accepted : c.validate = .ok () := c.validate_eq_ok_iff.mpr (by decide)
  obtain ⟨-, -, -, -, configured⟩ := follow_quit
  obtain ⟨-, blankGoesOn, runs⟩ := configured c accepted
  obtain ⟨ends, -, -⟩ := runs {} (.sentinel (Text.encode c.heartbeatSentinel)) 0
    [.begin, .move, .act (.line "\u2003qUiT\t")]
  obtain ⟨ended, shown⟩ := ends _ _ [] rfl rfl rfl (by decide)
  exact ⟨accepted, ended, shown, blankGoesOn _ (by decide)⟩

end Lifeline
