import Lifeline.Operator.Queue

/-! # Calls on one queue

Lines are offered to a queue and taken from it in any order, by calls that would wait and by calls that
would not, and at some point the sender may go away.  A call adds a line at the end, delivers the first
one, closes the queue or changes nothing (`Change`), so no line is lost, made up or moved on its way
through (`calls_conserve`).  A queue that is closed and empty stays so, and from then on has one answer
to each call (`calls_of_finished`).
-/

namespace Lifeline.Operator.Queue

/-! ## Sequences of calls -/

inductive Call where
  | offer (line : String)
  /-- The sender goes away. -/
  | close
  /-- Asks for what is next, and is given up where it would wait. -/
  | take
  | tryTake
deriving DecidableEq, Repr

inductive Answer where
  | offered (offer : Offer)
  | closed
  | taken (taken : Taken)
  | tried (input : Option Input)
deriving DecidableEq, Repr

def call (queue : Queue) : Call → Answer × Queue
  | .offer line => (.offered (queue.offer line).1, (queue.offer line).2)
  | .close => (.closed, queue.close)
  | .take => (.taken queue.take.1, queue.take.2)
  | .tryTake => (.tried queue.tryTake.1, queue.tryTake.2)

/-- Some calls with the answers to them, and the queue behind them. -/
def calls (queue : Queue) : List Call → List (Call × Answer) × Queue
  | [] => ([], queue)
  | c :: later =>
    let (answer, queue) := queue.call c
    let (record, queue) := queue.calls later
    ((c, answer) :: record, queue)

/-- The line that a call brought into the queue, if it did. -/
def accepted : Call × Answer → List String
  | (.offer line, .offered .queued) => [line]
  | _ => []

/-- The line that a call brought out of the queue, if it did. -/
def delivered : Call × Answer → List String
  | (_, .taken (.ready (.line line))) | (_, .tried (some (.line line))) => [line]
  | _ => []

variable {queue after : Queue} {c : Call} {answer : Answer}

/-! ## Taking -/

/-- A reader that is prepared to wait is given what one that is not is given. -/
theorem take_eq_tryTake (queue : Queue) :
    queue.take = (queue.tryTake.1.elim .waiting .ready, queue.tryTake.2) := by
  obtain ⟨_ | ⟨line, lines⟩, _ | _⟩ := queue <;> rfl

theorem take_eq_waiting_iff (queue : Queue) :
    queue.take.1 = .waiting ↔ queue.tryTake.1 = none := by
  rw [take_eq_tryTake]
  cases queue.tryTake.1 <;> simp

theorem take_eq_closed_iff (queue : Queue) :
    queue.take.1 = .ready .closed ↔ queue.tryTake.1 = some .closed := by
  rw [take_eq_tryTake]
  cases queue.tryTake.1 <;> simp

/-- The close is told when there is nothing else to tell. -/
theorem tryTake_eq_closed_iff (queue : Queue) :
    queue.tryTake.1 = some .closed ↔ queue.ended = true ∧ queue.lines = [] := by
  obtain ⟨_ | ⟨line, lines⟩, _ | _⟩ := queue <;> simp [tryTake]

/-! ## One call -/

/-- What a call can do to a queue. -/
inductive Change (queue : Queue) : Call → Answer → Queue → Prop where
  | adds {line : String} (stays : queue.ended = false) (room : queue.lines.length < capacity) :
      Change queue (.offer line) (.offered .queued) { queue with lines := queue.lines ++ [line] }
  | delivers {c : Call} {answer : Answer} {line : String} {lines : List String} (other : c ≠ .close)
      (first : queue.lines = line :: lines) (out : delivered (c, answer) = [line])
      (nothingIn : accepted (c, answer) = []) : Change queue c answer { queue with lines }
  | keeps {c : Call} {answer : Answer} (other : c ≠ .close) (nothingOut : delivered (c, answer) = [])
      (nothingIn : accepted (c, answer) = []) : Change queue c answer queue
  | closes : Change queue .close .closed queue.close

theorem offer_cases (queue : Queue) (line : String) :
    (queue.ended = true ∧ queue.offer line = (.noSender, queue)) ∨
      (queue.ended = false ∧ capacity ≤ queue.lines.length ∧ queue.offer line = (.full, queue)) ∨
      (queue.ended = false ∧ queue.lines.length < capacity ∧
        queue.offer line = (.queued, { queue with lines := queue.lines ++ [line] })) := by
  obtain ⟨lines, _ | _⟩ := queue
  · by_cases full : capacity ≤ lines.length
    · exact .inr (.inl ⟨rfl, full, by simp [offer, full]⟩)
    · exact .inr (.inr ⟨rfl, Nat.lt_of_not_le full, by simp [offer, full]⟩)
  · exact .inl ⟨rfl, rfl⟩

theorem offer_eq_full_iff (queue : Queue) (line : String) :
    (queue.offer line).1 = .full ↔ queue.ended = false ∧ capacity ≤ queue.lines.length := by
  obtain ⟨ended, refused⟩ | ⟨stays, full, refused⟩ | ⟨stays, room, queued⟩ := queue.offer_cases line
  · simp [refused, ended]
  · simp [refused, stays, full]
  · simp [queued, room]

theorem change_call (queue : Queue) (c : Call) : Change queue c (queue.call c).1 (queue.call c).2 := by
  cases c with
  | offer line =>
    obtain ⟨-, refused⟩ | ⟨-, -, refused⟩ | ⟨stays, room, queued⟩ := queue.offer_cases line
    · rw [call, refused]
      exact .keeps nofun rfl rfl
    · rw [call, refused]
      exact .keeps nofun rfl rfl
    · rw [call, queued]
      exact .adds stays room
  | close => exact .closes
  | take =>
    obtain ⟨_ | ⟨line, lines⟩, _ | _⟩ := queue
    · exact .keeps nofun rfl rfl
    · exact .keeps nofun rfl rfl
    · exact .delivers nofun rfl rfl rfl
    · exact .delivers nofun rfl rfl rfl
  | tryTake =>
    obtain ⟨_ | ⟨line, lines⟩, _ | _⟩ := queue
    · exact .keeps nofun rfl rfl
    · exact .keeps nofun rfl rfl
    · exact .delivers nofun rfl rfl rfl
    · exact .delivers nofun rfl rfl rfl

/-- What comes out is the front of the queue, and what goes in is put behind the rest. -/
theorem Change.conserves (change : Change queue c answer after) :
    delivered (c, answer) ++ after.lines = queue.lines ++ accepted (c, answer) := by
  cases change with
  | adds => rfl
  | delivers _ first out nothingIn => simp [first, out, nothingIn]
  | keeps _ nothingOut nothingIn => simp [nothingOut, nothingIn]
  | closes => simp [close, delivered, accepted]

theorem Change.length_le (change : Change queue c answer after)
    (fits : queue.lines.length ≤ capacity) : after.lines.length ≤ capacity := by
  cases change with
  | adds _ room => simpa using Nat.succ_le_of_lt room
  | delivers _ first => exact Nat.le_of_succ_le (by simpa [first] using fits)
  | keeps | closes => exact fits

/-- The sender is gone once it went away, and for no other reason. -/
theorem Change.ended_iff (change : Change queue c answer after) :
    after.ended = true ↔ .close = c ∨ queue.ended = true := by
  cases change with
  | adds => simp
  | delivers other | keeps other => simp [other.symm]
  | closes => simp [close]

/-! ## Some calls -/

/-- The induction is on the calls, and each of them passes on what the one before it left. -/
theorem conserves_calls (queue : Queue) (cs : List Call) :
    (queue.calls cs).1.flatMap delivered ++ (queue.calls cs).2.lines =
      queue.lines ++ (queue.calls cs).1.flatMap accepted := by
  induction cs generalizing queue with
  | nil => simp [calls]
  | cons c cs inductionHypothesis =>
    have first := (change_call queue c).conserves
    simp only [calls, List.flatMap_cons, List.append_assoc, inductionHypothesis]
    rw [← List.append_assoc, first, List.append_assoc]

theorem length_calls_le (fits : queue.lines.length ≤ capacity) (cs : List Call) :
    (queue.calls cs).2.lines.length ≤ capacity := by
  induction cs generalizing queue with
  | nil => exact fits
  | cons c cs inductionHypothesis => exact inductionHypothesis ((change_call queue c).length_le fits)

theorem ended_calls_iff (queue : Queue) (cs : List Call) :
    (queue.calls cs).2.ended = true ↔ .close ∈ cs ∨ queue.ended = true := by
  induction cs generalizing queue with
  | nil => simp [calls]
  | cons c cs inductionHypothesis =>
    rw [calls, inductionHypothesis, (change_call queue c).ended_iff, List.mem_cons, or_left_comm,
      or_assoc]

/-- The answer to a call once the queue is closed and empty. -/
def Call.lastAnswer : Call → Answer
  | .offer _ => .offered .noSender
  | .close => .closed
  | .take => .taken (.ready .closed)
  | .tryTake => .tried (some .closed)

theorem calls_of_finished (ended : queue.ended = true) (empty : queue.lines = []) (cs : List Call) :
    queue.calls cs = (cs.map fun c => (c, c.lastAnswer), queue) := by
  obtain ⟨lines, closed⟩ := queue
  obtain rfl : lines = [] := empty
  obtain rfl : closed = true := ended
  have same (c : Call) : (⟨[], true⟩ : Queue).call c = (c.lastAnswer, ⟨[], true⟩) := by
    cases c <;> rfl
  induction cs with
  | nil => rfl
  | cons c cs inductionHypothesis => simp only [calls, same, inductionHypothesis, List.map_cons]

/-- Whatever is called on a queue that was new: the lines that came out and those that are still in it
    are the lines that went in, in their order; it never holds more than 32 of them, and a line is
    refused for lack of room exactly when it holds 32; a reader would wait exactly when one that
    does not wait gets nothing; and the close is told exactly when the sender is gone and nothing is
    left, and then to every later reader. -/
theorem calls_conserve (cs : List Call) :
    let record := (calls {} cs).1
    let queue := (calls {} cs).2
    record.flatMap delivered ++ queue.lines = record.flatMap accepted ∧
    queue.lines.length ≤ 32 ∧
    (∀ line, (queue.offer line).1 = .full ↔ .close ∉ cs ∧ queue.lines.length = 32) ∧
    (queue.take.1 = .waiting ↔ queue.tryTake.1 = none) ∧
    (queue.take.1 = .ready .closed ↔ .close ∈ cs ∧ queue.lines = []) ∧
    (queue.tryTake.1 = some .closed ↔ .close ∈ cs ∧ queue.lines = []) ∧
    (.close ∈ cs ∧ queue.lines = [] → ∀ more, queue.calls more =
      (more.map fun c => (c, c.lastAnswer), queue)) := by
  intro record queue
  have fits : queue.lines.length ≤ 32 := length_calls_le (Nat.zero_le _) cs
  have ended : queue.ended = true ↔ .close ∈ cs := by simpa using ended_calls_iff {} cs
  have told : queue.tryTake.1 = some .closed ↔ .close ∈ cs ∧ queue.lines = [] := by
    rw [tryTake_eq_closed_iff, ended]
  refine ⟨conserves_calls {} cs, fits, fun line => ?_, queue.take_eq_waiting_iff, ?_, told, ?_⟩
  · rw [offer_eq_full_iff, ← ended, Bool.not_eq_true, Nat.le_antisymm_iff, and_iff_right fits]
    rfl
  · rw [take_eq_closed_iff, told]
  · rintro ⟨gone, empty⟩ more
    exact calls_of_finished (ended.mpr gone) empty more

end Lifeline.Operator.Queue
