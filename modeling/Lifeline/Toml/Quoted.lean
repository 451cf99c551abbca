import Lifeline.Json.Quoted

/-! # Quoted texts in a document

A text stands between single or double quotes, on one line, or over several lines between quotes
that are written three times.  Between double quotes a backslash begins an escape; between single
quotes every character stands for itself.  Control characters other than the tab are refused.
-/

namespace Lifeline.Toml

/-! ## Characters -/

def isGap (c : Char) : Bool := c = ' ' || c = '\t'

def isPlain (c : Char) : Bool := c = '\t' || 0x20 ≤ c.toNat && c.toNat ≠ 0x7F

/-- The end of a line at the front of a text, as what follows it. -/
def lineEnd? : List Char → Option (List Char)
  | '\n' :: rest => some rest
  | '\r' :: '\n' :: rest => some rest
  | _ => none

/-! ## Escapes -/

/-- The character whose number some hexadecimal digits give, unless there is none with it. -/
def ofHex? (digits : List Char) : Option Char :=
  match digits.mapM Json.hexDigit? with
  | none => none
  | some values =>
    let n := values.foldl (fun n value => n * 16 + value) 0
    if n.isValidChar then some (Char.ofNat n) else none

def readHex (count : Nat) (cs : List Char) : Option (Char × Nat) :=
  if cs.length < count then none else (ofHex? (cs.take count)).map fun c => (c, count)

/-- Reads an escape behind its backslash: the character, and how many of the characters belong to
    it. -/
def readEscape : List Char → Option (Char × Nat)
  | 'b' :: _ => some ('\x08', 1)
  | 'f' :: _ => some ('\x0c', 1)
  | 'n' :: _ => some ('\n', 1)
  | 'r' :: _ => some ('\r', 1)
  | 't' :: _ => some ('\t', 1)
  | '"' :: _ => some ('"', 1)
  | '\\' :: _ => some ('\\', 1)
  | 'u' :: rest => (readHex 4 rest).map fun (c, count) => (c, count + 1)
  | 'U' :: rest => (readHex 8 rest).map fun (c, count) => (c, count + 1)
  | _ => none

/-- How much white space, ends of lines included, stands at the front of a text. -/
def gapLength : List Char → Nat
  | '\r' :: '\n' :: rest => gapLength rest + 2
  | c :: rest => if c = '\n' || isGap c then gapLength rest + 1 else 0
  | [] => 0

/-- How much white space a backslash at the end of a line takes with it, if a line ends behind the
    backslash. -/
def foldLength? (cs : List Char) : Option Nat :=
  (lineEnd? (cs.dropWhile isGap)).map fun _ => gapLength cs

/-! ## Texts -/

structure Quotes where
  mark : Char
  escapes : Bool
deriving DecidableEq, Repr

def Quotes.double : Quotes := ⟨'"', true⟩

def Quotes.single : Quotes := ⟨'\x27', false⟩

/-- Reads a text on one line behind its opening quote, of which the first `skip` characters are
    accounted for: the text, and what follows its closing quote. -/
def readLine (quotes : Quotes) : Nat → List Char → Option (List Char × List Char)
  | _, [] => none
  | skip + 1, _ :: rest => readLine quotes skip rest
  | 0, c :: rest =>
    if c = quotes.mark then some ([], rest)
    else if quotes.escapes && c = '\\' then
      match readEscape rest with
      | none => none
      | some (escaped, count) =>
        (readLine quotes count rest).map fun (text, rest) => (escaped :: text, rest)
    else if isPlain c then (readLine quotes 0 rest).map fun (text, rest) => (c :: text, rest)
    else none

/-- How many quotes in a row can close a text over several lines: the last three close it, and the
    others belong to it. -/
def mostQuotes : Nat := 5

/-- Reads a text over several lines behind its opening quotes, of which the first `skip` characters
    are accounted for.  Every end of a line in it counts as a line feed. -/
def readBlock (quotes : Quotes) : Nat → List Char → Option (List Char × List Char)
  | _, [] => none
  | skip + 1, _ :: rest => readBlock quotes skip rest
  | 0, c :: rest =>
    if c = quotes.mark then
      let marks := min mostQuotes ((rest.takeWhile (· = quotes.mark)).length + 1)
      if 3 ≤ marks then some (List.replicate (marks - 3) c, rest.drop (marks - 1))
      else (readBlock quotes 0 rest).map fun (text, rest) => (c :: text, rest)
    else if quotes.escapes && c = '\\' then
      match foldLength? rest with
      | some count => readBlock quotes count rest
      | none =>
        match readEscape rest with
        | none => none
        | some (escaped, count) =>
          (readBlock quotes count rest).map fun (text, rest) => (escaped :: text, rest)
    else
      match lineEnd? (c :: rest) with
      | some after =>
        (readBlock quotes (rest.length - after.length) rest).map
          fun (text, rest) => ('\n' :: text, rest)
      | none =>
        if isPlain c then (readBlock quotes 0 rest).map fun (text, rest) => (c :: text, rest)
        else none

/-- Reads a text behind its first quote.  An end of a line right behind three quotes does not belong
    to the text. -/
def readText (quotes : Quotes) (cs : List Char) : Option (List Char × List Char) :=
  match cs with
  | a :: b :: rest =>
    if a = quotes.mark && b = quotes.mark then readBlock quotes 0 ((lineEnd? rest).getD rest)
    else readLine quotes 0 cs
  | _ => readLine quotes 0 cs

def Quotes.of? (c : Char) : Option Quotes :=
  if c = Quotes.double.mark then some .double
  else if c = Quotes.single.mark then some .single
  else none

end Lifeline.Toml
