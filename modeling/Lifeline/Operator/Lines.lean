import Lifeline.Text.Bytes

/-! # Lines on standard input

The operator's input is a list of bytes that line feeds divide into segments.  Every segment is a
line, up to the first one that is no text: there the input ends.  Carriage returns at the end of a
line belong to the way lines are ended and are taken off, two of them before a line feed and one at
the end of the input.
-/

namespace Lifeline.Operator

/-- Bytes up to a line feed or to the end of the input. -/
structure Segment where
  bytes : Bytes
  isEnded : Bool
deriving DecidableEq, Repr

def lineFeed : UInt8 := 0x0A

/-- The segments of an input.  The end of the input begins no segment. -/
def segments : Bytes → List Segment
  | [] => []
  | b :: rest =>
    if b = lineFeed then ⟨[], true⟩ :: segments rest
    else
      match segments rest with
      | [] => [⟨[b], false⟩]
      | segment :: more => { segment with bytes := b :: segment.bytes } :: more

def dropReturn (cs : List Char) : List Char :=
  if cs.getLast? = some '\r' then cs.dropLast else cs

def Segment.line? (segment : Segment) : Option String :=
  (Text.decodeWith none 0 segment.bytes).map fun cs =>
    String.ofList (if segment.isEnded then dropReturn (dropReturn cs) else dropReturn cs)

/-- The lines in some segments up to the first one that is no text. -/
def linesIn : List Segment → List String
  | [] => []
  | segment :: more =>
    match segment.line? with
    | none => []
    | some line => line :: linesIn more

def lines (input : Bytes) : List String := linesIn (segments input)

end Lifeline.Operator
