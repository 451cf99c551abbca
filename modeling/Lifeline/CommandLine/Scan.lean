import Lifeline.CommandLine.Arguments
import Lifeline.CommandLine.Help

/-! # Reading the command line

Arguments are read from the left.  A word that names a command leads into this command, which reads
the rest; flags before it belong to the command around it.  The value of a flag stands behind an
equals sign, behind its letter, or in the next argument, and is looked at only when something else
comes or the arguments end.  The first problem is told; help and the version are answers that end
the reading just as well.
-/

namespace Lifeline.CommandLine

/-! ## Answers -/

inductive Reply where
  /-- The help for a command, asked for or in place of a missing command. -/
  | help (command : Command) (isAsked : Bool)
  | helpOnHelp (command : Command)
  | version
  | misuse (misuse : Misuse)
deriving DecidableEq, Repr

/-! ## Shapes -/

inductive Shape where
  /-- Two dashes, behind which nothing is a flag. -/
  | endOfFlags
  /-- Two dashes and a name, perhaps with a value behind an equals sign. -/
  | long (name : String) (value : Option String)
  | short (letters : List Char)
  | word
deriving DecidableEq, Repr

def Shape.of (argument : String) : Shape :=
  match argument.toList with
  | ['-', '-'] => .endOfFlags
  | '-' :: '-' :: cs =>
    let name := String.ofList (cs.takeWhile (· ≠ '='))
    match cs.dropWhile (· ≠ '=') with
    | _ :: value => .long name (some (String.ofList value))
    | [] => .long name none
  | '-' :: c :: cs => .short (c :: cs)
  | _ => .word

/-! ## State -/

structure Scan where
  given : List Flag := []
  arguments : Arguments := {}
  /-- The last flag, if it takes a value that was not looked at yet, and the value once it is
      there. -/
  pending : Option (Flag × Option String) := none
  isPastFlags : Bool := false
deriving DecidableEq, Repr

namespace Scan

def isWaiting (s : Scan) : Bool :=
  match s.pending with
  | some (_, none) => true
  | _ => false

/-- Counts a flag as given, with its value: the state behind it, and a problem if there is one. -/
def receive (s : Scan) (flag : Flag) (value : String) : Scan × Option Problem :=
  if s.given.contains flag then
    ({ s with given := s.given.erase flag }, some (.repeated flag))
  else
    let s := { s with given := s.given ++ [flag] }
    match s.arguments.accept flag value with
    | .ok arguments => ({ s with arguments }, none)
    | .error problem => (s, some problem)

def settle (s : Scan) : Scan × Option Problem :=
  match s.pending with
  | none => (s, none)
  | some (flag, none) => ({ s with pending := none }, some (.noValue flag))
  | some (flag, some value) => { s with pending := none }.receive flag value

end Scan

def valueReply (command : Command) (problem : Problem) : Reply :=
  match problem with
  | .repeated _ => .misuse { problem, usage := some command.usage }
  | _ => .misuse { problem }

def checked (command : Command) : Scan × Option Problem → Except Reply Scan
  | (s, none) => .ok s
  | (_, some problem) => .error (valueReply command problem)

def settled (command : Command) (s : Scan) : Except Reply Scan := checked command s.settle

/-! ## Flags -/

def actOn (command : Command) (s : Scan) (flag : Flag) : Except Reply Scan := do
  let s ← settled command s
  match flag with
  | .help => throw (.help command true)
  | .version => throw .version
  | _ => checked command (s.receive flag "")

def actWith (command : Command) (s : Scan) (flag : Flag) (value : Option String) :
    Except Reply Scan := do
  let s ← settled command s
  match value with
  | some value => checked command (s.receive flag value)
  | none => return { s with pending := some (flag, none) }

/-- What to tell about a name that belongs to no flag.  A flag that may have been meant counts as
    given. -/
def unknownLong (command : Command) (s : Scan) (name : String) : Reply :=
  let similar := (Text.similar (command.flags.map Flag.long) name).getLast?.bind fun name =>
    command.flags.find? fun flag => flag.long == name
  let given := s.settle.1.given
  let used := given ++ similar.toList.filter fun flag => !given.contains flag
  .misuse
    { problem := .unexpected ("--" ++ name) similar, usage := some (command.usageWith used) }

def takeLong (command : Command) (s : Scan) (name : String) (value : Option String) :
    Except Reply Scan :=
  match command.flags.find? fun flag => flag.long == name with
  | none => .error (unknownLong command s name)
  | some flag =>
    if flag.takesValue then actWith command s flag value
    else
      match value with
      | none => actOn command s flag
      | some value =>
        .error (.misuse
          { problem := .surplusValue flag value
            usage := some (command.usageBehind s.given flag) })

/-- Reads flags by their letters.  What stands behind the letter of a flag with a value is its
    value. -/
def takeShort (command : Command) (s : Scan) : List Char → Except Reply Scan
  | [] => .ok s
  | c :: rest =>
    match command.flags.find? fun flag => flag.short? == some c with
    | none =>
      .error (.misuse
        { problem := .unexpected (String.ofList ['-', c]) none, usage := some command.usage })
    | some flag =>
      if flag.takesValue then
        let value := match rest with
          | [] => none
          | '=' :: cs => some (String.ofList cs)
          | cs => some (String.ofList cs)
        actWith command s flag value
      else do takeShort command (← actOn command s flag) rest

/-! ## Words -/

def helpOn (command : Command) : List String → Reply
  | [] => .help command true
  | word :: rest =>
    match command.followers.find? fun follower => follower.word == word with
    | some follower => helpOn follower rest
    | none =>
      if command.nextWords.contains word then
        match rest with
        | [] => .helpOnHelp command
        | word :: _ =>
          .misuse
            { problem := .unknownCommand word [], usage := some command.helpUsage, hasHelp := false }
      else .misuse { problem := .unknownCommand word [], usage := some command.usage }

def misplaced (command : Command) (s : Scan) (word : String) : Reply :=
  let problem :=
    if s.isPastFlags && command.nextWords.contains word then .afterEnd word
    else if command.followers.isEmpty then .unexpected word none
    else .unknownCommand word (Text.similar command.nextWords word)
  .misuse { problem, usage := some command.usage }

def takeWord (command : Command) (s : Scan) (word : String) : Except Reply Scan :=
  match s.isPastFlags, s.pending with
  | false, some (flag, none) => .ok { s with pending := some (flag, some word) }
  | _, _ => .error (misplaced command s word)

def takeArgument (command : Command) (s : Scan) (argument : String) : Except Reply Scan :=
  if s.isPastFlags then takeWord command s argument
  else
    match Shape.of argument with
    | .endOfFlags => .ok { s with isPastFlags := true }
    | .long name value => takeLong command s name value
    | .short letters => takeShort command s letters
    | .word => takeWord command s argument

/-! ## Commands -/

/-- Reads arguments up to a word that leads into another command: what was read, and this command
    with the arguments that are left to it. -/
def scan (command : Command) (s : Scan) :
    List String → Except Reply (Scan × Option (Command × List String))
  | [] => .ok (s, none)
  | argument :: rest =>
    if !s.isPastFlags && !s.isWaiting && command.nextWords.contains argument then
      match command.followers.find? fun follower => follower.word == argument with
      | some follower => .ok (s, some (follower, rest))
      | none => .error (helpOn command rest)
    else
      match takeArgument command s argument with
      | .error reply => .error reply
      | .ok s => scan command s rest

/-- Reads the arguments of a command and of those that follow it, of which there are at most
    `depth`: what was read for the first one, and the last one. -/
def descend : Nat → Command → List String → Except Reply (Scan × Command)
  | 0, command, _ => .ok ({}, command)
  | depth + 1, command, arguments => do
    let (s, next) ← scan command {} arguments
    match next with
    | some (follower, rest) =>
      let (_, last) ← descend depth follower rest
      return (s, last)
    | none =>
      if command.needsFollower then throw (.help command false)
      return (s, command)

def commandDepth : Nat := 3

/-! ## The whole line -/

def standIn (env : Environment) (s : Scan) (flag : Flag) : Except Reply Scan :=
  match flag.envName?.bind env.text? with
  | some value =>
    if s.given.contains flag then .ok s else checked .client (s.receive flag value)
  | none => .ok s

def conflict? (given : List Flag) : Option (Flag × Flag) :=
  given.findSome? fun flag => (given.find? flag.excludes).map fun other => (flag, other)

def refuseConflicts (s : Scan) : Except Reply Unit :=
  match conflict? s.given with
  | none => .ok ()
  | some (flag, other) =>
    .error (.misuse
      { problem := .conflict flag other
        usage := some (Command.client.usageWith (s.given.filter (· ≠ other))) })

structure Request where
  command : Command
  arguments : Arguments
deriving DecidableEq, Repr

def read (env : Environment) (arguments : List String) : Except Reply Request := do
  let (s, command) ← descend commandDepth .client arguments
  let s ← settled .client s
  let s ← Command.client.flags.foldlM (standIn env) s
  refuseConflicts s
  return ⟨command, s.arguments⟩

end Lifeline.CommandLine
