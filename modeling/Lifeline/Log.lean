import Lifeline.Number.Reading
import Lifeline.Text.Alphanumeric
import Lifeline.Text.Blank
import Lifeline.Text.Letters
import Lifeline.Text.Pattern

/-! # Logs

A log record has a level, a source, a message and fields.  Which records are kept is told by
directives: each sets the most detailed level for the records whose sources have names that begin in
a certain way, or that have a certain field, or for all.  Of those that fit a record, the most
specific one decides.
-/

namespace Lifeline.Log

/-! ## Levels -/

inductive Level where
  | error
  | warn
  | info
  | debug
  | trace
deriving DecidableEq, Repr

def Level.detail : Level → Nat
  | .error => 1
  | .warn => 2
  | .info => 3
  | .debug => 4
  | .trace => 5

def Level.name : Level → String
  | .error => "ERROR"
  | .warn => "WARN"
  | .info => "INFO"
  | .debug => "DEBUG"
  | .trace => "TRACE"

def fullDetail : Nat := 5

/-- The number of a limit: the number itself, perhaps behind a plus, a level's name in letters of
    either case, or a word for none at all. -/
def limitOf? (text : String) : Option Nat :=
  let digits := match text.toList with
    | '+' :: cs => cs
    | cs => cs
  if !digits.isEmpty && digits.all Char.isDigit then
    if Number.decimalOf digits ≤ fullDetail then some (Number.decimalOf digits) else none
  else if Text.agree text "off" then some 0
  else
    ([Level.error, .warn, .info, .debug, .trace].find? fun level =>
      Text.agree text level.name).map Level.detail

/-! ## Records -/

structure Record where
  level : Level
  source : String
  message : String
  fields : List (String × String) := []
deriving DecidableEq, Repr

def messageField : String := "message"

def Record.hasField (record : Record) (name : String) : Bool :=
  name = messageField || (record.fields.map Prod.fst).contains name

/-! ## Directives -/

inductive Scope where
  | records
  | recordsWith (field : String)
  | spans
deriving DecidableEq, Repr

/-- The most detailed level for what is in a scope and comes from the sources whose names begin with
    a text. -/
structure Directive where
  source : String := ""
  scope : Scope := .records
  limit : Nat
deriving DecidableEq, Repr

def Scope.holds (record : Record) : Scope → Bool
  | .records => true
  | .recordsWith field => record.hasField field
  | .spans => false

def Directive.fits (d : Directive) (record : Record) : Bool :=
  d.source.toList.isPrefixOf record.source.toList && d.scope.holds record

/-- Whether a scope is at least as narrow as another one.  Of two fields, the one whose name comes
    later counts as narrower. -/
def Scope.isWithin : Scope → Scope → Bool
  | .recordsWith field, .recordsWith other => !(field < other)
  | .recordsWith _, _ => true
  | _, .recordsWith _ => false
  | _, _ => true

/-- Whether a directive is at least as specific as another one for the same record: it has the
    longer beginning, or else the narrower scope. -/
def Directive.isWithin (d other : Directive) : Bool :=
  if d.source.length = other.source.length then d.scope.isWithin other.scope
  else other.source.length < d.source.length

/-! ## Reading directives -/

def canBegin (c : Char) : Bool := Text.isAlphanumeric c || c = '-' || c = ':' || c = '_'

/-- The limit at the end of a directive, where a directive that names none allows full detail. -/
def limitBehind? : List Char → Option Nat
  | '=' :: level => if level.isEmpty then some fullDetail else limitOf? (String.ofList level)
  | rest => if rest.all Text.isBlank then some fullDetail else none

/-- The scope that a field in braces tells, behind the name of a span or none.  A field may have a
    value, which is a number or a pattern and is known for spans only. -/
def braced? (span field : List Char) : Option Scope :=
  match field, field.dropWhile (· ≠ '=') with
  | [], _ => none
  | _, [] => some (if span.isEmpty then .recordsWith (String.ofList field) else .spans)
  | _, _ :: value =>
    let value := String.ofList (value.takeWhile (· ≠ '='))
    if (Number.ofText? value).isSome || Text.Pattern.isPattern value then some .spans else none

/-- The scope that a bracket and what stands in it tell, and what follows the bracket: in it are the
    name of a span, a field in braces, or both. -/
def bracketed? (cs : List Char) : Option (Scope × List Char) :=
  let span := cs.takeWhile fun c => c ≠ ']' && c ≠ '\x7b'
  match cs.dropWhile fun c => c ≠ ']' && c ≠ '\x7b' with
  | ']' :: rest => some (.spans, rest)
  | _ :: inner =>
    let field := inner.takeWhile (· ≠ '\x7d')
    match inner.dropWhile (· ≠ '\x7d') with
    | '\x7d' :: ']' :: rest => (braced? span field).map fun scope => (scope, rest)
    | _ => none
  | [] => none

/-- The directive in a text.  Blanks in front of it make it fit nothing, and leave no place for a
    limit. -/
def directiveOf? (text : String) : Option Directive :=
  let cs := text.toList.dropWhile Text.isBlank
  let isIndented := cs.length < text.length
  let name := cs.takeWhile fun c => c ≠ '=' && c ≠ '['
  match cs with
  | [] => none
  | c :: _ =>
    if c ≠ '[' && !canBegin c then none
    else
      match cs.dropWhile fun c => c ≠ '=' && c ≠ '[' with
      | [] =>
        match limitOf? text with
        | some limit => some { limit }
        | none => some { source := text, limit := fullDetail }
      | '[' :: inner =>
        match bracketed? inner with
        | none => none
        | some (scope, rest) =>
          if isIndented && rest.head? = some '=' then none
          else
            (limitBehind? rest).map fun limit =>
              { source := String.ofList name
                scope := if isIndented then .spans else scope
                limit }
      | rest =>
        if isIndented then none
        else (limitBehind? rest).map fun limit => { source := String.ofList name, limit }

def parts : List Char → List (List Char)
  | [] => [[]]
  | c :: cs =>
    if c = ',' then [] :: parts cs
    else
      match parts cs with
      | [] => [[c]]
      | part :: more => (c :: part) :: more

/-! ## Filters -/

abbrev Filter := List Directive

def Filter.default : Filter := [{ limit := Level.warn.detail }]

/-- The filter that a text gives.  An empty one keeps errors only. -/
def Filter.ofText? (text : String) : Option Filter := do
  let given := (parts text.toList).filter (!·.isEmpty)
  let directives ← given.mapM fun part => directiveOf? (String.ofList part)
  if directives.isEmpty then return [{ limit := Level.error.detail }]
  return directives

def Filter.ofVariable (value : Option String) : Filter :=
  (value.bind Filter.ofText?).getD .default

/-- The directive that decides about a record: the most specific one that fits it, and of equals the
    last. -/
def Filter.decisive? (filter : Filter) (record : Record) : Option Directive :=
  (filter.filter fun d => d.fits record).foldl
    (fun best d => if best.all d.isWithin then some d else best) none

def Filter.keeps (filter : Filter) (record : Record) : Bool :=
  match filter.decisive? record with
  | some d => record.level.detail ≤ d.limit
  | none => false

/-! ## Lines -/

inductive Form where
  | file
  | plain
  | coloured
deriving DecidableEq, Repr

/-- A text between the escape sequences that begin and end a rendition with a number. -/
def rendered (rendition : Nat) (text : String) : String := s!"\x1b[{rendition}m{text}\x1b[0m"

def faint : Nat := 2
def italic : Nat := 3

def Level.rendition : Level → Nat
  | .error => 31
  | .warn => 33
  | .info => 32
  | .debug => 34
  | .trace => 35

/-- The name of a level, as wide as the longest of them. -/
def Level.column (level : Level) : String :=
  String.ofList (List.replicate (fullDetail - level.name.length) ' ') ++ level.name

def Form.field (form : Form) (name value : String) : String :=
  match form with
  | .file | .plain => s!"{name}={value}"
  | .coloured => rendered italic name ++ rendered faint "=" ++ value

def Record.line (record : Record) (time : String) (form : Form) : String :=
  let fields := record.fields.map fun (name, value) => form.field name value
  let told := " ".intercalate (record.message :: fields) ++ "\n"
  let level := record.level.column
  match form with
  | .file => s!"{time} {level} {record.source}: {told}"
  | .plain => s!"{time} {level} {told}"
  | .coloured => s!"{rendered faint time} {rendered record.level.rendition level} {told}"

end Lifeline.Log
