import Lifeline.Text.Alphanumeric

/-! # Patterns

A pattern tells by its form which texts it stands for: it has alternatives, groups in parentheses,
classes of characters in brackets, and signs for repetition.  Only the form is looked at here, and
`isPattern` says whether a text has it.  Counts of repetition and the ends of words are no part of
the notation.
-/

namespace Lifeline.Text.Pattern

/-! ## Escapes -/

/-- What a backslash and the characters behind it stand for. -/
inductive Escape where
  | character (c : Char)
  | kind
  | place
deriving DecidableEq, Repr

def hexDigit? (c : Char) : Option Nat :=
  if c.isDigit then some (c.toNat - '0'.toNat)
  else if 'a' ≤ c ∧ c ≤ 'f' then some (c.toNat - 'a'.toNat + 10)
  else if 'A' ≤ c ∧ c ≤ 'F' then some (c.toNat - 'A'.toNat + 10)
  else none

def readHex (count : Nat) (cs : List Char) : Option (Escape × List Char) := do
  let digits ← (cs.take count).mapM hexDigit?
  let point := digits.foldl (fun n d => n * 16 + d) 0
  if digits.length = count ∧ point.isValidChar then
    return (.character (Char.ofNat point), cs.drop count)
  else none

def categoryLetters : List Char := "cClLmMnNpPsSzZ".toList

def kindLetters : List Char := "dDsSwW".toList

def characterLetters : List (Char × Char) :=
  [('a', '\x07'), ('f', '\x0c'), ('t', '\t'), ('n', '\n'), ('r', '\r'), ('v', '\x0b')]

def endLetters : List Char := ['A', 'z']

/-- Whether a character stands for itself behind a backslash. -/
def isPlain (c : Char) : Bool := c.toNat < 0x80 && !c.isAlphanum && c ≠ '<' && c ≠ '>'

def readEscape : List Char → Option (Escape × List Char)
  | [] => none
  | 'x' :: cs => readHex 2 cs
  | 'u' :: cs => readHex 4 cs
  | 'U' :: cs => readHex 8 cs
  | c :: cs =>
    if c = 'p' ∨ c = 'P' then
      match cs with
      | letter :: rest => if categoryLetters.contains letter then some (.kind, rest) else none
      | [] => none
    else if kindLetters.contains c then some (.kind, cs)
    else if endLetters.contains c then some (.place, cs)
    else
      match characterLetters.lookup c with
      | some meant => some (.character meant, cs)
      | none => if isPlain c then some (.character c, cs) else none

/-! ## Classes of characters -/

def readMember : List Char → Option (Option Char × List Char)
  | [] => none
  | '\\' :: cs =>
    match readEscape cs with
    | some (.character c, rest) => some (some c, rest)
    | some (.kind, rest) => some (none, rest)
    | _ => none
  | c :: cs => some (some c, cs)

/-- Reads a member of a class, or a range between two characters in ascending order. -/
def readRange (cs : List Char) : Option (List Char) := do
  let (first, rest) ← readMember cs
  match rest with
  | '-' :: ']' :: _ | '-' :: '-' :: _ => return rest
  | '-' :: behind =>
    match first, ← readMember behind with
    | some low, (some high, rest) => if low ≤ high then some rest else none
    | _, _ => none
  | _ => return rest

/-- What follows the start of a class: a sign for its complement, and characters that would mean
    something else further on. -/
def classStart (cs : List Char) : List Char :=
  let cs := match cs with
    | '^' :: rest => rest
    | _ => cs
  match cs.dropWhile (· = '-'), cs with
  | ']' :: rest, ']' :: _ => rest
  | rest, _ => rest

def classNames : List String :=
  ["alnum", "alpha", "ascii", "blank", "cntrl", "digit", "graph", "lower", "print", "punct",
    "space", "upper", "word", "xdigit"]

def readClassName : List Char → Option (List Char)
  | ':' :: cs =>
    let cs := match cs with
      | '^' :: rest => rest
      | _ => cs
    match cs.dropWhile (· ≠ ':') with
    | ':' :: ']' :: rest =>
      if classNames.contains (String.ofList (cs.takeWhile (· ≠ ':'))) then some rest else none
    | _ => none
  | _ => none

/-- Reads the rest of a class and of the classes around it, of which there are `depth`. -/
def readClass : Nat → Nat → List Char → Option (List Char)
  | 0, _, _ => none
  | fuel + 1, depth, cs =>
    match cs with
    | [] => none
    | ']' :: rest =>
      match depth with
      | 0 => some rest
      | depth + 1 => readClass fuel depth rest
    | '[' :: rest =>
      match readClassName rest with
      | some rest => readClass fuel depth rest
      | none => readClass fuel (depth + 1) (classStart rest)
    | '&' :: '&' :: rest | '-' :: '-' :: rest | '~' :: '~' :: rest => readClass fuel depth rest
    | _ => (readRange cs).bind (readClass fuel depth)

/-! ## Parts -/

inductive Part where
  | start (name : Option String)
  | finish
  | alternative
  | repetition
  | setting
  | item
deriving DecidableEq, Repr

def settingLetters : List Char := "imsUuRx".toList

/-- Whether settings are well formed: no letter comes twice, and a sign that takes some back comes
    before one of them at most. -/
def areSettings (cs : List Char) : Bool :=
  cs.all (fun c => c = '-' || settingLetters.contains c) && cs.eraseDups.length = cs.length &&
    cs.getLast? ≠ some '-'

def isGroupName (cs : List Char) : Bool :=
  match cs with
  | [] => false
  | c :: rest =>
    (c = '_' || isAlphanumeric c && !c.isDigit) &&
      rest.all fun d => ['_', '.', '[', ']'].contains d || isAlphanumeric d

def readGroupName (cs : List Char) : Option (Part × List Char) :=
  let name := cs.takeWhile (· ≠ '>')
  match cs.dropWhile (· ≠ '>') with
  | [] => none
  | _ :: rest =>
    if isGroupName name then some (.start (some (String.ofList name)), rest) else none

def readStart (cs : List Char) : Option (Part × List Char) :=
  match cs with
  | '?' :: 'P' :: '<' :: rest | '?' :: '<' :: rest => readGroupName rest
  | '?' :: rest =>
    let settings := rest.takeWhile fun c => c ≠ ':' && c ≠ ')'
    if !areSettings settings then none
    else
      match rest.dropWhile fun c => c ≠ ':' && c ≠ ')' with
      | ':' :: rest => some (.start none, rest)
      | ')' :: rest => if settings.isEmpty then none else some (.setting, rest)
      | _ => none
  | _ => some (.start none, cs)

def readPart : List Char → Option (Part × List Char)
  | [] => none
  | c :: cs =>
    if c = '(' then readStart cs
    else if c = ')' then some (.finish, cs)
    else if c = '|' then some (.alternative, cs)
    else if c = '*' ∨ c = '+' ∨ c = '?' then
      match cs with
      | '?' :: rest => some (.repetition, rest)
      | _ => some (.repetition, cs)
    else if c = '\x7b' then none
    else if c = '[' then
      (readClass cs.length 0 (classStart cs)).map fun rest => (.item, rest)
    else if c = '\\' then (readEscape cs).map fun (_, rest) => (.item, rest)
    else some (.item, cs)

/-- The parts of a pattern, of which every one takes a character at least. -/
def readParts : Nat → List Char → Option (List Part)
  | _, [] => some []
  | 0, _ => none
  | fuel + 1, cs => do
    let (part, rest) ← readPart cs
    return part :: (← readParts fuel rest)

/-! ## Whole patterns -/

/-- Whether parts fit together inside `depth` groups: groups are closed, and what is repeated stands
    right before the sign for it. -/
def fitTogether : Nat → Bool → List Part → Bool
  | depth, _, [] => depth = 0
  | depth, canRepeat, part :: parts =>
    match part, depth with
    | .start _, _ => fitTogether (depth + 1) false parts
    | .finish, 0 => false
    | .finish, depth + 1 => fitTogether depth true parts
    | .alternative, _ | .setting, _ => fitTogether depth false parts
    | .repetition, _ => canRepeat && fitTogether depth true parts
    | .item, _ => fitTogether depth true parts

def groupNames (parts : List Part) : List String :=
  parts.filterMap fun part =>
    match part with
    | .start name => name
    | _ => none

def isPattern (text : String) : Bool :=
  match readParts text.length text.toList with
  | some parts =>
    fitTogether 0 false parts && (groupNames parts).eraseDups.length = (groupNames parts).length
  | none => false

end Lifeline.Text.Pattern
