import Lifeline.Operator.Lines
import Lifeline.Operator.Queue

/-! # Feeding the queue

Standard input is read by a party of its own, one line at a time, and each line is put into the
queue.  The reader holds a line back as long as the queue is full, and goes away at the end of the
input or at the first line that is no text.  The receiver takes what is ready.  Which of the two has
the next turn is up to the system, so a run is a sequence of turns.
-/

namespace Lifeline.Operator

/-- The first segment of an input, and what follows it. -/
def nextSegment? : Bytes → Option (Segment × Bytes)
  | [] => none
  | b :: rest =>
    if b = lineFeed then some (⟨[], true⟩, rest)
    else
      match nextSegment? rest with
      | none => some (⟨[b], false⟩, [])
      | some (segment, after) => some ({ segment with bytes := b :: segment.bytes }, after)

structure Feed where
  unread : Bytes
  /-- A line that was read and is not in the queue yet. -/
  held : Option String := none
  queue : Queue := {}
  /-- What the receiver has taken, in order. -/
  taken : List Input := []
deriving DecidableEq, Repr

inductive Turn where
  | read
  /-- The receiver asks for what is next and would wait for it. -/
  | take
  /-- The receiver asks for what is ready without waiting. -/
  | tryTake
deriving DecidableEq, Repr

namespace Feed

/-- The reader reads the next line, or offers the one that it holds.  Once it is gone it does nothing
    more. -/
def read (feed : Feed) : Feed :=
  if feed.queue.ended then feed
  else
    match feed.held with
    | some line =>
      match feed.queue.offer line with
      | (.queued, queue) => { feed with held := none, queue }
      | (.full, _) | (.noSender, _) => feed
    | none =>
      match nextSegment? feed.unread with
      | none => { feed with queue := feed.queue.close }
      | some (segment, unread) =>
        match segment.line? with
        | none => { feed with unread, queue := feed.queue.close }
        | some line => { feed with unread, held := some line }

def take (feed : Feed) : Feed :=
  match feed.queue.take with
  | (.ready input, queue) => { feed with queue, taken := feed.taken ++ [input] }
  | (.waiting, _) => feed

def tryTake (feed : Feed) : Feed :=
  match feed.queue.tryTake with
  | (some input, queue) => { feed with queue, taken := feed.taken ++ [input] }
  | (none, _) => feed

def turn (feed : Feed) : Turn → Feed
  | .read => feed.read
  | .take => feed.take
  | .tryTake => feed.tryTake

/-- A feed after some of the turns of a run. -/
def after (turns : Nat → Turn) (feed : Feed) : Nat → Feed
  | 0 => feed
  | count + 1 => (feed.after turns count).turn (turns count)

end Feed

end Lifeline.Operator
