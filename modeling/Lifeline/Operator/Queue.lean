/-! # The operator's lines

Lines wait in a bounded queue until the session takes them, first in, first out.  The sender may go
away; the lines it left behind are still delivered, and only then is the queue closed for good.
-/

namespace Lifeline.Operator

def capacity : Nat := 32

structure Queue where
  lines : List String := []
  /-- The sender is gone, and no line will be added. -/
  ended : Bool := false
deriving DecidableEq, Repr

inductive Offer where
  | queued
  | full
  | noSender
deriving DecidableEq, Repr

inductive Input where
  | line (text : String)
  | closed
deriving DecidableEq, Repr

namespace Queue

def offer (queue : Queue) (line : String) : Offer × Queue :=
  if queue.ended then (.noSender, queue)
  else if capacity ≤ queue.lines.length then (.full, queue)
  else (.queued, { queue with lines := queue.lines ++ [line] })

def close (queue : Queue) : Queue := { queue with ended := true }

/-- Takes what is ready without waiting: the oldest line, or the close once no line is left. -/
def tryTake (queue : Queue) : Option Input × Queue :=
  match queue.lines with
  | line :: lines => (some (.line line), { queue with lines })
  | [] => (if queue.ended then some .closed else none, queue)

inductive Taken where
  | ready (input : Input)
  /-- Nothing is there, and a line may still come. -/
  | waiting
deriving DecidableEq, Repr

def take (queue : Queue) : Taken × Queue :=
  match queue.lines, queue.ended with
  | line :: lines, _ => (.ready (.line line), { queue with lines })
  | [], true => (.ready .closed, queue)
  | [], false => (.waiting, queue)

end Queue

end Lifeline.Operator
