import Lifeline.Operator.Feed
import Lifeline.Proofs.Operator.Lines

/-! # What a receiver gets

A line is never lost between the input and the receiver: the lines that were taken, those in the
queue, the one that the reader holds and those that are still unread make up the lines of the input
at every moment (`Conserves`).  The close is told only when nothing is left.  Every turn either
changes nothing or takes a line one step further, and one of the two parties can always do so; so
once both keep getting turns, everything is delivered (`exists_told`), however small the queue is.
-/

namespace Lifeline.Operator

/-! ## One segment at a time -/

theorem segments_eq_next (bytes : Bytes) :
    segments bytes =
      match nextSegment? bytes with
      | none => []
      | some (segment, rest) => segment :: segments rest := by
  induction bytes with
  | nil => rfl
  | cons b rest inductionHypothesis =>
    by_cases feeds : b = lineFeed
    · simp [segments, nextSegment?, feeds]
    · rw [segments, nextSegment?, if_neg feeds, if_neg feeds, inductionHypothesis]
      cases nextSegment? rest <;> rfl

theorem length_of_nextSegment? {bytes rest : Bytes} {segment : Segment}
    (next : nextSegment? bytes = some (segment, rest)) : rest.length < bytes.length := by
  induction bytes generalizing segment with
  | nil => cases next
  | cons b bytes inductionHypothesis =>
    by_cases feeds : b = lineFeed
    · simp only [nextSegment?, feeds, if_true, Option.some.injEq, Prod.mk.injEq] at next
      simp [next.2]
    · rw [nextSegment?, if_neg feeds] at next
      cases later : nextSegment? bytes with
      | none =>
        simp only [later, Option.some.injEq, Prod.mk.injEq] at next
        simp [← next.2]
      | some found =>
        obtain ⟨part, after⟩ := found
        simp only [later, Option.some.injEq, Prod.mk.injEq] at next
        obtain ⟨-, rfl⟩ := next
        have shorter := inductionHypothesis later
        simp only [List.length_cons]
        omega

namespace Feed

/-! ## Turns -/

/-- What a turn of the reader can do. -/
inductive ReadTurn (feed : Feed) : Feed → Prop where
  | gone (ended : feed.queue.ended = true) : ReadTurn feed feed
  | blocked {line : String} (open' : feed.queue.ended = false) (holds : feed.held = some line)
      (full : capacity ≤ feed.queue.lines.length) : ReadTurn feed feed
  | puts {line : String} (open' : feed.queue.ended = false) (holds : feed.held = some line) :
      ReadTurn feed
        { feed with held := none, queue := { feed.queue with lines := feed.queue.lines ++ [line] } }
  | reads {line : String} {unread : Bytes} (open' : feed.queue.ended = false)
      (free : feed.held = none) (shorter : unread.length < feed.unread.length)
      (next : lines feed.unread = line :: lines unread) :
      ReadTurn feed { feed with unread, held := some line }
  | closes {unread : Bytes} (open' : feed.queue.ended = false) (free : feed.held = none)
      (exhausted : lines feed.unread = []) :
      ReadTurn feed { feed with unread, queue := feed.queue.close }

theorem readTurn (feed : Feed) : ReadTurn feed feed.read := by
  obtain ⟨unread, held, ⟨waiting, ended⟩, taken⟩ := feed
  cases ended with
  | true => exact .gone rfl
  | false =>
    cases held with
    | some line =>
      by_cases full : capacity ≤ waiting.length
      · simp only [read, Queue.offer, full, if_true]
        exact .blocked rfl rfl full
      · simp only [read, Queue.offer, full, if_false]
        exact .puts rfl rfl
    | none =>
      have divided := segments_eq_next unread
      simp only [read]
      cases next : nextSegment? unread with
      | none =>
        rw [next] at divided
        exact .closes rfl rfl (by rw [lines, divided]; rfl)
      | some found =>
        obtain ⟨segment, later⟩ := found
        rw [next] at divided
        dsimp only
        cases text : segment.line? with
        | none => exact .closes rfl rfl (by rw [lines, divided, linesIn, text])
        | some line =>
          have first : lines unread = line :: lines later := by
            rw [lines, divided, linesIn, text]
            rfl
          exact .reads rfl rfl (length_of_nextSegment? next) first

/-- What a turn of the receiver can do. -/
inductive TakeTurn (feed : Feed) : Feed → Prop where
  | line {line : String} {lines : List String} (first : feed.queue.lines = line :: lines) :
      TakeTurn feed
        { feed with queue := { feed.queue with lines }, taken := feed.taken ++ [.line line] }
  | closed (ended : feed.queue.ended = true) (nothing : feed.queue.lines = []) :
      TakeTurn feed { feed with taken := feed.taken ++ [.closed] }
  | waits (open' : feed.queue.ended = false) (nothing : feed.queue.lines = []) : TakeTurn feed feed

theorem takeTurn (feed : Feed) : TakeTurn feed feed.take := by
  obtain ⟨unread, held, ⟨waiting, ended⟩, taken⟩ := feed
  cases waiting with
  | cons line waiting => exact .line rfl
  | nil =>
    cases ended with
    | true => exact .closed rfl rfl
    | false => exact .waits rfl rfl

theorem tryTake_eq_take (feed : Feed) : feed.tryTake = feed.take := by
  unfold take tryTake Queue.take Queue.tryTake
  cases feed.queue.lines with
  | cons line lines => rfl
  | nil => cases feed.queue.ended <;> rfl

theorem turn_cases (feed : Feed) (turn : Turn) :
    turn = .read ∧ ReadTurn feed (feed.turn turn) ∨
      turn ≠ .read ∧ TakeTurn feed (feed.turn turn) := by
  cases turn with
  | read => exact .inl ⟨rfl, readTurn feed⟩
  | take => exact .inr ⟨nofun, takeTurn feed⟩
  | tryTake =>
    have same : feed.turn .tryTake = feed.take := tryTake_eq_take feed
    exact .inr ⟨nofun, same ▸ takeTurn feed⟩

/-! ## No line is lost -/

/-- The lines that are not in the queue yet. -/
def coming (feed : Feed) : List String :=
  if feed.queue.ended then [] else feed.held.toList ++ lines feed.unread

/-- Some texts are the lines that were taken, those in the queue and those that come after them, and
    no close was told before the last of them was taken. -/
def Conserves (texts : List String) (feed : Feed) : Prop :=
  ∃ delivered closes, texts = delivered ++ (feed.queue.lines ++ feed.coming) ∧
    feed.taken = delivered.map .line ++ List.replicate closes .closed ∧
    (closes ≠ 0 → feed.queue.ended = true ∧ feed.queue.lines = [])

variable {texts : List String} {feed next : Feed}

theorem Conserves.read (conserves : feed.Conserves texts) (turn : ReadTurn feed next) :
    next.Conserves texts := by
  obtain ⟨delivered, closes, whole, taken, closed⟩ := conserves
  -- a reader that is not gone has told no close
  have none (open' : feed.queue.ended = false) : closes = 0 := by
    by_contra told
    simp [open'] at closed
    exact told closed
  cases turn with
  | gone | blocked => exact ⟨delivered, closes, whole, taken, closed⟩
  | puts open' holds =>
    exact ⟨delivered, closes, by simpa [coming, open', holds] using whole, taken,
      fun told => absurd (none open') told⟩
  | reads open' free _ first =>
    exact ⟨delivered, closes, by simpa [coming, open', free, first] using whole, taken,
      fun told => absurd (none open') told⟩
  | closes open' free exhausted =>
    exact ⟨delivered, closes, by simpa [coming, Queue.close, open', free, exhausted] using whole, taken,
      fun told => absurd (none open') told⟩

theorem Conserves.take (conserves : feed.Conserves texts) (turn : TakeTurn feed next) :
    next.Conserves texts := by
  obtain ⟨delivered, closes, whole, taken, closed⟩ := conserves
  cases turn with
  | @line line _ first =>
    -- a queue with a line in it is not closed
    have none : closes = 0 := by
      by_contra told
      simp [first] at closed
      exact told closed
    refine ⟨delivered ++ [line], 0, ?_, ?_, fun told => absurd rfl told⟩
    · simpa [first, coming] using whole
    · simp [taken, none]
  | closed ended nothing =>
    refine ⟨delivered, closes + 1, whole, ?_, fun _ => ⟨ended, nothing⟩⟩
    simp [taken, List.replicate_succ']
  | waits => exact ⟨delivered, closes, whole, taken, closed⟩

theorem conserves_after (input : Bytes) (turns : Nat → Turn) (count : Nat) :
    (after turns { unread := input } count).Conserves (lines input) := by
  induction count with
  | zero => exact ⟨[], 0, rfl, rfl, fun told => absurd rfl told⟩
  | succ count inductionHypothesis =>
    rw [after]
    obtain ⟨-, turn⟩ | ⟨-, turn⟩ := turn_cases (after turns { unread := input } count) (turns count)
    · exact inductionHypothesis.read turn
    · exact inductionHypothesis.take turn

/-! ## Something is always delivered -/

/-- How many more turns the lines of a feed can take. -/
def effort (feed : Feed) : Nat :=
  feed.queue.lines.length +
    if feed.queue.ended then 0 else 3 * feed.unread.length + 2 * feed.held.toList.length + 1

/-- The receiver was told that the queue is closed. -/
def Told (feed : Feed) : Prop := .closed ∈ feed.taken

def Advances (feed next : Feed) : Prop := next.effort < feed.effort ∨ next.Told

theorem ReadTurn.advances (turn : ReadTurn feed next) :
    next = feed ∧ (feed.queue.ended = true ∨ feed.queue.lines ≠ []) ∨ feed.Advances next := by
  cases turn with
  | gone ended => exact .inl ⟨rfl, .inl ended⟩
  | blocked _ _ full =>
    refine .inl ⟨rfl, .inr fun nothing => ?_⟩
    simp [nothing, capacity] at full
  | puts open' holds =>
    right; left
    simp [effort, open', holds]
    omega
  | reads open' free shorter =>
    right; left
    simp [effort, open', free]
    omega
  | closes open' =>
    right; left
    simp [effort, Queue.close, open']

theorem TakeTurn.advances (turn : TakeTurn feed next) :
    next = feed ∧ feed.queue.ended = false ∧ feed.queue.lines = [] ∨ feed.Advances next := by
  cases turn with
  | line first =>
    right; left
    simp [effort, first]
  | closed =>
    right; right
    simp [Told]
  | waits open' nothing => exact .inl ⟨rfl, open', nothing⟩

theorem eq_or_advances (feed : Feed) (turn : Turn) :
    feed.turn turn = feed ∨ feed.Advances (feed.turn turn) := by
  obtain ⟨-, step⟩ | ⟨-, step⟩ := feed.turn_cases turn
  · exact step.advances.imp_left And.left
  · exact step.advances.imp_left And.left

/-- There is a party whose next turn changes something, whatever the state. -/
theorem exists_party (feed : Feed) :
    (∀ turn, turn = .read → feed.Advances (feed.turn turn)) ∨
      ∀ turn, turn ≠ .read → feed.Advances (feed.turn turn) := by
  by_cases waits : feed.queue.ended = false ∧ feed.queue.lines = []
  · left
    rintro _ rfl
    obtain ⟨-, ended | line⟩ | advances := (readTurn feed).advances
    · simp [waits.1] at ended
    · exact absurd waits.2 line
    · exact advances
  · right
    intro turn receives
    obtain ⟨rfl, -⟩ | ⟨-, step⟩ := feed.turn_cases turn
    · exact absurd rfl receives
    · exact step.advances.resolve_left fun same => waits same.2

section Runs

variable {turns : Nat → Turn} {start : Feed} {n m : Nat}

theorem after_eq_or_advances (turns : Nat → Turn) (start : Feed) (later : n ≤ m) :
    start.after turns m = start.after turns n ∨
      ∃ k, (start.after turns n).Advances (start.after turns k) := by
  induction later with
  | refl => exact .inl rfl
  | @step m _ inductionHypothesis =>
    obtain same | advanced := inductionHypothesis
    · obtain still | advances := (start.after turns m).eq_or_advances (turns m)
      · exact .inl (still.trans same)
      · exact .inr ⟨m + 1, same ▸ advances⟩
    · exact .inr advanced

/-- A party that can change something does so at its next turn, unless the other one has done so
    before. -/
theorem exists_advances {party : Turn → Prop} (active : ∀ n, ∃ m ≥ n, party (turns m))
    (able : ∀ turn, party turn → (start.after turns n).Advances ((start.after turns n).turn turn)) :
    ∃ k, (start.after turns n).Advances (start.after turns k) := by
  obtain ⟨m, later, turn⟩ := active n
  obtain same | advanced := after_eq_or_advances turns start later
  · refine ⟨m + 1, ?_⟩
    rw [after, same]
    exact able _ turn
  · exact advanced

/-- A receiver is told of the close if both parties keep getting turns. -/
theorem exists_told (reads : ∀ n, ∃ m ≥ n, turns m = .read) (takes : ∀ n, ∃ m ≥ n, turns m ≠ .read)
    (start : Feed) : ∃ n, (start.after turns n).Told := by
  -- each step forward leaves less to do, so by induction on what there is to do
  suffices ∀ effort n, (start.after turns n).effort = effort → ∃ m, (start.after turns m).Told from
    this _ 0 rfl
  intro effort
  induction effort using Nat.strongRecOn with
  | ind effort inductionHypothesis =>
    intro n left
    have advanced : ∃ k, (start.after turns n).Advances (start.after turns k) := by
      obtain reader | receiver := (start.after turns n).exists_party
      · exact exists_advances reads reader
      · exact exists_advances takes receiver
    obtain ⟨k, less | told⟩ := advanced
    · exact inductionHypothesis _ (left ▸ less) k rfl
    · exact ⟨k, told⟩

end Runs

/-! ## The lines of standard input -/

/-- What a receiver is given of an input, both parties having turns again and again: the lines of the
    input in order and each of them once, and after the last one that the queue is closed.  The lines
    are the texts of the segments between line feeds, up to the first that is no text, each without
    the carriage returns of its end.  Lines that were written with one or both characters behind
    them are given as they were written. -/
theorem after_delivers (input : Bytes) (turns : Nat → Turn)
    (reads : ∀ n, ∃ m ≥ n, turns m = .read) (takes : ∀ n, ∃ m ≥ n, turns m ≠ .read) :
    ∃ delivered : List String, Readings input delivered ∧
      (∀ n, ∃ count closes,
        (after turns { unread := input } n).taken =
          (delivered.take count).map .line ++ List.replicate closes .closed ∧
        (closes ≠ 0 → delivered.length ≤ count)) ∧
      (∃ n closes, (after turns { unread := input } n).taken =
        delivered.map .line ++ List.replicate (closes + 1) .closed) ∧
      ∀ texts : List (String × Bool),
        (∀ text ∈ texts, '\n' ∉ text.1.toList ∧ text.1.toList.getLast? ≠ some '\r') →
        input = texts.flatMap (fun text => written text.1 text.2) → delivered = texts.map (·.1) := by
  have inOrder (n : Nat) : ∃ count closes,
      (after turns { unread := input } n).taken =
        ((lines input).take count).map .line ++ List.replicate closes .closed ∧
      (closes ≠ 0 → (lines input).length ≤ count) := by
    obtain ⟨front, closes, whole, taken, closed⟩ := conserves_after input turns n
    refine ⟨front.length, closes, by rw [taken, whole, List.take_left], ?_⟩
    intro told
    obtain ⟨ended, nothing⟩ := closed told
    simp [whole, coming, ended, nothing]
  refine ⟨lines input, readings_lines input, inOrder, ?_, ?_⟩
  · obtain ⟨n, told⟩ := exists_told reads takes { unread := input }
    obtain ⟨count, closes, taken, all⟩ := inOrder n
    cases closes with
    | zero => simp [Told, taken, -List.map_take] at told
    | succ closes =>
      rw [List.take_of_length_le (all (Nat.succ_ne_zero closes))] at taken
      exact ⟨n, closes, taken⟩
  · rintro texts bare rfl
    exact lines_written bare

/-- A reader that is far ahead at first, and has every other turn later. -/
def rushed (n : Nat) : Turn := if n < 100 ∨ n % 2 = 0 then .read else .take

/-- More lines than the queue has room for are all delivered, though the reader stands still before it
    for a while. -/
theorem after_delivers_rushed :
    let input := (List.replicate 40 ("hi", true)).flatMap fun text => written text.1 text.2
    (∀ n, ∃ m ≥ n, rushed m = .read) ∧ (∀ n, ∃ m ≥ n, rushed m ≠ .read) ∧
      capacity < (List.replicate 40 "hi").length ∧
      ∃ n closes,
        (after rushed { unread := input } n).taken =
          (List.replicate 40 "hi").map .line ++ List.replicate (closes + 1) .closed := by
  intro input
  have reads (n : Nat) : ∃ m ≥ n, rushed m = .read :=
    ⟨2 * n, by omega, if_pos (by omega)⟩
  have takes (n : Nat) : ∃ m ≥ n, rushed m ≠ .read :=
    ⟨2 * n + 101, by omega, by rw [rushed, if_neg (by omega)]; exact nofun⟩
  obtain ⟨delivered, -, -, whole, same⟩ := after_delivers input rushed reads takes
  have given := same (List.replicate 40 ("hi", true)) (by decide) rfl
  rw [List.map_replicate] at given
  exact ⟨reads, takes, by decide, given ▸ whole⟩

end Feed

end Lifeline.Operator
