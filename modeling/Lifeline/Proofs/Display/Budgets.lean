import Lifeline.Proofs.Display.Framing

/-! # Showing events to a writer that fails

A writer that may take only so many bytes of an event takes its rendition up to there, wherever that is
between or inside its pieces (`Writer.writeAll_eq`), and is flushed only if that was all of it.  Nothing
of this is left behind for the next event (`taken_foldl_within`).
-/

namespace Lifeline.Display

/-! ## One event -/

/-- The front of some bytes that a budget is enough for. -/
def affordable : Option Nat → Bytes → Bytes
  | none, bytes => bytes
  | some n, bytes => bytes.take n

def affords (budget : Option Nat) (bytes : Bytes) : Bool := budget.all (bytes.length ≤ ·)

/-- The induction is on the pieces.  The first one that does not fit uses up what is left, so that the
    ones behind it, which are not tried, have no byte among those that are affordable. -/
theorem Writer.writeAll_within {w : Writer} {n : Nat} (limited : w.budget = some n)
    (pieces : List Bytes) :
    w.writeAll pieces =
      (affords (some n) pieces.flatten,
        { w with
          budget := some (n - pieces.flatten.length)
          taken := w.taken ++ pieces.flatten.take n }) := by
  induction pieces generalizing w n with
  | nil => simp [writeAll, affords, ← limited]
  | cons piece pieces inductionHypothesis =>
    have written : w.write piece =
        (decide (piece.length ≤ n),
          { w with budget := some (n - piece.length), taken := w.taken ++ piece.take n }) := by
      simp only [write, limited]
    have later := inductionHypothesis rfl
      (w := { w with budget := some (n - piece.length), taken := w.taken ++ piece.take n })
    simp only [writeAll, written, List.flatten_cons, List.length_append, List.take_append,
      ← Nat.sub_sub, ← List.append_assoc]
    by_cases fits : piece.length ≤ n
    · have whole : affords (some n) (piece ++ pieces.flatten) =
          affords (some (n - piece.length)) pieces.flatten := by
        simp only [affords, Option.all_some, List.length_append, decide_eq_decide]
        omega
      simp only [fits, decide_true, later, whole]
    · have short : affords (some n) (piece ++ pieces.flatten) = false := by
        simp only [affords, Option.all_some, List.length_append, decide_eq_false_iff_not]
        omega
      have spent : n - piece.length = 0 := by omega
      simp only [fits, decide_false, short, spent, Nat.zero_sub, List.take_zero, List.append_nil]

theorem Writer.writeAll_eq (w : Writer) (pieces : List Bytes) :
    w.writeAll pieces =
      (affords w.budget pieces.flatten,
        { w with
          budget := w.budget.map (· - pieces.flatten.length)
          taken := w.taken ++ affordable w.budget pieces.flatten }) := by
  cases limit : w.budget with
  | none =>
    rw [Writer.writeAll_unlimited limit]
    simp [affords, affordable, limit]
  | some n => exact Writer.writeAll_within limit pieces

/-- Shows an event to a writer that may take so many more bytes. -/
def within (mode : Mode) (w : Writer) (turn : Event × Option Nat) : Writer :=
  emit mode { w with budget := turn.2 } turn.1

theorem within_eq (mode : Mode) (w : Writer) (event : Event) (budget : Option Nat) :
    within mode w (event, budget) =
      { budget := budget.map (· - (rendition mode event).length)
        taken := w.taken ++ affordable budget (rendition mode event)
        flushes := w.flushes + if affords budget (rendition mode event) then 1 else 0 } := by
  rw [within, emit, Writer.writeAll_eq, ← List.flatMap_def, ← rendition]
  cases affords budget (rendition mode event) <;> rfl

theorem taken_shown (mode : Mode) (event : Event) :
    (shown mode none event).taken = rendition mode event := by
  rw [shown, emit_unlimited rfl]
  rfl

/-! ## Some events -/

theorem taken_foldl_within (mode : Mode) (w : Writer) (turns : List (Event × Option Nat)) :
    (turns.foldl (within mode) w).taken =
      w.taken ++ turns.flatMap fun turn => affordable turn.2 (rendition mode turn.1) := by
  induction turns generalizing w with
  | nil => simp
  | cons turn turns inductionHypothesis =>
    rw [List.foldl_cons, inductionHypothesis, within_eq, List.flatMap_cons, List.append_assoc]

theorem flushes_foldl_within (mode : Mode) (w : Writer) (turns : List (Event × Option Nat)) :
    (turns.foldl (within mode) w).flushes =
      w.flushes + turns.countP fun turn => affords turn.2 (rendition mode turn.1) := by
  induction turns generalizing w with
  | nil => simp
  | cons turn turns inductionHypothesis =>
    rw [List.foldl_cons, inductionHypothesis, within_eq, List.countP_cons]
    dsimp only
    omega

/-! ## Terminals -/

/-- On a terminal, the line is cleared before what comes from the peer, and the prompt is shown again
    wherever another line may be entered. -/
theorem rendition_interactive (event : Event) :
    rendition (.text true) event =
      match event with
      | .received _ =>
        Text.encode clearLine ++ rendition (.text false) event ++ Text.encode prompt
      | .peerClosed => Text.encode clearLine ++ rendition (.text false) event
      | .connected _ _ | .sent _ | .skipped => rendition (.text false) event ++ Text.encode prompt
      | .farewell => rendition (.text false) event := by
  cases event <;> simp [rendition, pieces, interrupts, reprompts]

/-- Of each event, a writer takes as much of what it would take without a limit as its budget is enough
    for, and it is flushed once if that is all of it and not otherwise.  What is shown later is what
    would be shown to a new writer, whatever failed before.  On a terminal only the prompt and the
    clearing of the line are added. -/
theorem shown_within_budgets (mode : Mode) (before later : List (Event × Option Nat)) (event : Event)
    (budget : Option Nat) :
    let full := (shown mode none event).taken
    let piped := (shown (.text false) none event).taken
    let first := before.foldl (within mode) {}
    let second := within mode first (event, budget)
    let last := later.foldl (within mode) second
    let alone := later.foldl (within mode) {}
    second.taken = first.taken ++ affordable budget full ∧
    second.flushes = first.flushes + (if affords budget full then 1 else 0) ∧
    last.taken = second.taken ++ alone.taken ∧
    last.flushes = second.flushes + alone.flushes ∧
    (shown (.text true) none event).taken =
      match event with
      | .received _ => Text.encode clearLine ++ piped ++ Text.encode prompt
      | .peerClosed => Text.encode clearLine ++ piped
      | .connected _ _ | .sent _ | .skipped => piped ++ Text.encode prompt
      | .farewell => piped := by
  intro full piped first second last alone
  have whole : full = rendition mode event := taken_shown mode event
  have shows : second = _ := within_eq mode first event budget
  refine ⟨?_, ?_, ?_, ?_, ?_⟩
  · rw [shows, whole]
  · rw [shows, whole]
  · simp only [last, alone, taken_foldl_within, List.nil_append]
  · simp only [last, alone, flushes_foldl_within, Nat.zero_add]
  · simp only [piped, taken_shown]
    exact rendition_interactive event

end Lifeline.Display
