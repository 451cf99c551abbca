import Lifeline.Text.Bytes
import Lifeline.Toml.Document

/-! # Passages of a document

A message about an item shows where it stands: the line in which the passage begins, and a mark below
it.  `itemPassage?` finds the passage of a named item.  An item with a name of its own is all that
its value is written in, a table under a heading reaches from there to the last of its items, and of
a table that only opened on the way to others there is no more than its name.
-/

namespace Lifeline.Toml

structure Passage where
  before : List Char
  inside : List Char
  behind : List Char
deriving DecidableEq, Repr

namespace Passage

/-- The passage of a text between two points, each given by what follows it. -/
def between (text start stop : List Char) : Passage where
  before := text.take (text.length - start.length)
  inside := start.take (start.length - stop.length)
  behind := stop

/-! ## Excerpts -/

def isInLine (c : Char) : Bool := c ≠ '\n'

def line (p : Passage) : Nat := p.before.countP (!isInLine ·) + 1

/-- What stands before a passage in its line. -/
def indent (p : Passage) : List Char := (p.before.reverse.takeWhile isInLine).reverse

def content (p : Passage) : List Char := p.indent ++ (p.inside ++ p.behind).takeWhile isInLine

/-- How long the mark below a passage is.  It takes the passage in bytes, as far as the line goes, and
    is never empty. -/
def markLength (p : Passage) : Nat :=
  let size := fun cs => (Text.encode (String.ofList cs)).length
  max 1 (min (size p.inside) (size p.content - p.indent.length))

def row (length : Nat) (c : Char) : String := String.ofList (List.replicate length c)

def excerpt (p : Passage) : String :=
  let column := p.indent.length + 1
  let gutter := row (s!"{p.line}".length + 1) ' '
  s!"TOML parse error at line {p.line}, column {column}\n" ++
    s!"{gutter}|\n" ++
    s!"{p.line} | {String.ofList p.content}\n" ++
    gutter ++ "|" ++ row column ' ' ++ row p.markLength '^' ++ "\n"

end Passage

/-! ## Lines -/

/-- A line that is not blank, as what follows its front and what follows its contents. -/
structure LineSpan where
  start : List Char
  stop : List Char

namespace LineSpan

def all : Nat → List Char → List LineSpan
  | 0, _ => []
  | _ + 1, [] => []
  | fuel + 1, cs =>
    match endLine cs with
    | some rest => all fuel rest
    | none =>
      match readContents (skipGap cs) with
      | none => []
      | some (_, stop) => ⟨skipGap cs, stop⟩ :: ((endLine stop).map (all fuel)).getD []

def isHeading (line : LineSpan) : Bool := line.start.head? = some '['

/-- The value in a line that gives an item a name of its own. -/
def value? (name : String) (line : LineSpan) : Option LineSpan :=
  match readPath depthLimit line.start with
  | some ([], key, '=' :: rest) => if key = name then some ⟨skipGap rest, line.stop⟩ else none
  | _ => none

/-- A name at the front of a line, or of its heading. -/
def name? (name : String) (line : LineSpan) : Option LineSpan :=
  let start := skipGap (line.start.dropWhile (· = '['))
  match readName start with
  | some (key, rest) => if key = name then some ⟨start, rest⟩ else none
  | none => none

def heads (name : String) (line : LineSpan) : Bool :=
  match readContents line.start with
  | some (.heading heading, _) => heading.path.isEmpty && heading.name = name
  | _ => false

/-- The headings among some lines, each up to the end of the last line below it. -/
def sections (lines : List LineSpan) : List LineSpan :=
  (lines.foldr
    (fun line (found, last) =>
      if line.isHeading then (⟨line.start, last.getD line.stop⟩ :: found, none)
      else (found, last <|> some line.stop))
    (([], none) : List LineSpan × Option (List Char))).1

end LineSpan

/-! ## Items -/

def itemSpan? (name : String) (lines : List LineSpan) : Option LineSpan :=
  let top := lines.takeWhile (!·.isHeading)
  match top.findSome? (LineSpan.value? name), (LineSpan.sections lines).filter (·.heads name) with
  | some value, _ => some value
  | none, first :: more => some ⟨first.start, ((first :: more).getLastD first).stop⟩
  | none, [] => (top ++ lines.filter (·.isHeading)).findSome? (LineSpan.name? name)

def itemPassage? (name : String) (text : String) : Option Passage :=
  let cs := text.toList
  (itemSpan? name (LineSpan.all (cs.length + 1) (skipMark cs))).map fun span =>
    .between cs span.start span.stop

end Lifeline.Toml
