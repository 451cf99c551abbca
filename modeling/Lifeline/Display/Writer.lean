import Lifeline.Text.Bytes

/-! # A writer that may fail

A `Writer` takes bytes until its budget is used up.  A piece that does not fit is taken as far as it
fits, and the write fails; pieces behind a failed one are not tried.
-/

namespace Lifeline.Display

structure Writer where
  /-- How many more bytes are accepted, `none` without a limit. -/
  budget : Option Nat := none
  taken : Bytes := []
  flushes : Nat := 0
deriving DecidableEq, Repr

namespace Writer

def write (w : Writer) (piece : Bytes) : Bool × Writer :=
  match w.budget with
  | none => (true, { w with taken := w.taken ++ piece })
  | some n =>
    (piece.length ≤ n,
      { w with budget := some (n - piece.length), taken := w.taken ++ piece.take n })

/-- Writes pieces up to the first that is not taken whole. -/
def writeAll (w : Writer) : List Bytes → Bool × Writer
  | [] => (true, w)
  | piece :: pieces =>
    match w.write piece with
    | (true, w) => w.writeAll pieces
    | (false, w) => (false, w)

def flush (w : Writer) : Writer := { w with flushes := w.flushes + 1 }

end Writer

end Lifeline.Display
