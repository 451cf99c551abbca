import Lifeline.Toml.Moment
import Lifeline.Toml.Quoted

/-! # Documents

A document is read line by line: a line is blank, holds a name and its item, or a heading, and may
end with a comment.  `read` gives the table of a text, or `none` if the text is no document.
Containers may be nested up to a limit, and the recursion over it is on what is left of the limit;
recursions over lines and over the items of a container spend the length of the text.
-/

namespace Lifeline.Toml

/-! ## White space and comments -/

def skipGap (cs : List Char) : List Char := cs.dropWhile isGap

def skipComment (cs : List Char) : List Char :=
  match cs with
  | '#' :: rest => rest.dropWhile isPlain
  | _ => cs

/-- Reads what may stand behind the contents of a line: what follows its end. -/
def endLine (cs : List Char) : Option (List Char) :=
  match skipComment (skipGap cs) with
  | [] => some []
  | rest => lineEnd? rest

/-- What follows white space, ends of lines and comments, of which the first `skip` characters are
    accounted for. -/
def skipLines (inComment : Bool) : Nat → List Char → List Char
  | _, [] => []
  | skip + 1, _ :: rest => skipLines inComment skip rest
  | 0, c :: rest =>
    match lineEnd? (c :: rest) with
    | some after => skipLines false (rest.length - after.length) rest
    | none =>
      if inComment then if isPlain c then skipLines true 0 rest else c :: rest
      else if c = '#' then skipLines true 0 rest
      else if isGap c then skipLines false 0 rest
      else c :: rest

/-! ## Names -/

def isBare (c : Char) : Bool := c.isAlphanum || c = '-' || c = '_'

def readName (cs : List Char) : Option (String × List Char) :=
  match cs with
  | [] => none
  | c :: rest =>
    match Quotes.of? c with
    | some quotes =>
      (readLine quotes 0 rest).map fun (name, rest) => (String.ofList name, rest)
    | none =>
      if isBare c then some (String.ofList (cs.takeWhile isBare), cs.dropWhile isBare) else none

/-- Reads a dotted name of at most `limit` names: the names before the last one, the last one, and
    what follows it, white space aside. -/
def readPath : Nat → List Char → Option (List String × String × List Char)
  | 0, _ => none
  | limit + 1, cs => do
    let (name, rest) ← readName (skipGap cs)
    match skipGap rest with
    | '.' :: rest =>
      let (path, last, rest) ← readPath limit rest
      return (name :: path, last, rest)
    | rest => return ([], name, rest)

/-- How many names a dotted name may have, and how deep containers may be nested. -/
def depthLimit : Nat := 79

/-! ## Items -/

def readScalar (cs : List Char) : Option (Item × List Char) :=
  match cs with
  | 't' :: 'r' :: 'u' :: 'e' :: rest => some (.boolean true, rest)
  | 'f' :: 'a' :: 'l' :: 's' :: 'e' :: rest => some (.boolean false, rest)
  | _ =>
    match cs with
    | [] => none
    | c :: rest =>
      match Quotes.of? c with
      | some quotes =>
        (readText quotes rest).map fun (text, rest) => (.string (String.ofList text), rest)
      | none =>
        match readMoment cs with
        | some rest => some (.moment, rest)
        | none => readNumber cs

abbrev Reader (α : Type) := List Char → Option (α × List Char)

def readItems (read : Reader Item) : Nat → Reader (List Item)
  | 0, _ => none
  | fuel + 1, cs =>
    match skipLines false 0 cs with
    | ']' :: rest => some ([], rest)
    | start => do
      let (item, rest) ← read start
      match skipLines false 0 rest with
      | ',' :: rest =>
        let (items, rest) ← readItems read fuel rest
        return (item :: items, rest)
      | ']' :: rest => return ([item], rest)
      | _ => none

def readEntry (read : Reader Item) (cs : List Char) : Option (Table.Entry × List Char) := do
  let (path, name, rest) ← readPath depthLimit cs
  match rest with
  | '=' :: rest =>
    let (item, rest) ← read (skipGap rest)
    return (⟨path, name, item⟩, rest)
  | _ => none

def readEntries (read : Reader Item) : Nat → Reader (List Table.Entry)
  | 0, _ => none
  | fuel + 1, cs => do
    let (entry, rest) ← readEntry read cs
    match skipGap rest with
    | ',' :: rest =>
      let (entries, rest) ← readEntries read fuel rest
      return (entry :: entries, rest)
    | '\x7d' :: rest => return ([entry], rest)
    | _ => none

def readBraced (read : Reader Item) (cs : List Char) : Option (Item × List Char) :=
  match skipGap cs with
  | '\x7d' :: rest => some (.braced [], rest)
  | start => do
    let (entries, rest) ← readEntries read start.length start
    return (.braced (← Table.addAll entries []), rest)

/-- Reads an item, with containers nested up to `depth`. -/
def readItem : Nat → Reader Item
  | 0, cs => readScalar cs
  | depth + 1, cs =>
    match cs with
    | '[' :: rest =>
      (readItems (readItem depth) (rest.length + 1) rest).map fun (items, rest) => (.array items, rest)
    | '\x7b' :: rest => readBraced (readItem depth) rest
    | _ => readScalar cs

/-! ## Lines -/

inductive Line where
  | entry (entry : Table.Entry)
  | heading (heading : Table.Heading)
deriving Repr

def readHeading (isRepeated : Bool) (cs : List Char) : Option (Line × List Char) := do
  let (path, name, rest) ← readPath depthLimit cs
  match isRepeated, rest with
  | false, ']' :: rest => return (.heading ⟨path, name, false⟩, rest)
  | true, ']' :: ']' :: rest => return (.heading ⟨path, name, true⟩, rest)
  | _, _ => none

def readContents (cs : List Char) : Option (Line × List Char) :=
  match cs with
  | '[' :: '[' :: rest => readHeading true rest
  | '[' :: rest => readHeading false rest
  | _ => (readEntry (readItem depthLimit) cs).map fun (entry, rest) => (.entry entry, rest)

def readLines : Nat → List Char → Option (List Line)
  | 0, _ => none
  | _ + 1, [] => some []
  | fuel + 1, cs =>
    match endLine cs with
    | some rest => readLines fuel rest
    | none => do
      let (line, rest) ← readContents (skipGap cs)
      let lines ← readLines fuel (← endLine rest)
      return line :: lines

/-- The items before the first heading, and the sections. -/
def sections (lines : List Line) : List Table.Entry × List Table.Section :=
  lines.foldr
    (fun line (entries, sections) =>
      match line with
      | .entry entry => (entry :: entries, sections)
      | .heading heading => ([], ⟨heading, entries⟩ :: sections))
    ([], [])

/-- A text without the mark at its front that says that it is Unicode. -/
def skipMark (cs : List Char) : List Char :=
  match cs with
  | '\uFEFF' :: rest => rest
  | _ => cs

def read (text : String) : Option Table := do
  let cs := skipMark text.toList
  let (entries, parts) := sections (← readLines (cs.length + 1) cs)
  Table.ofSections entries parts

end Lifeline.Toml
