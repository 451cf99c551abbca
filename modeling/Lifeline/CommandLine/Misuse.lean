import Lifeline.CommandLine.Flag

/-! # Misuse of the command line

What can be wrong with the arguments of the program, and how it is told: the problem, hints at what
may have been meant, how the command is used, and where to find help.
-/

namespace Lifeline.CommandLine

inductive Problem where
  /-- Nothing of the kind is expected; something alike may have been meant. -/
  | unexpected (argument : String) (similar : Option Flag)
  | afterEnd (word : String)
  | unknownCommand (word : String) (similar : List String)
  | noValue (flag : Flag)
  | noChoice (flag : Flag) (value : String) (similar : Option String)
  | badValue (flag : Flag) (value reason : String)
  | surplusValue (flag : Flag) (value : String)
  | repeated (flag : Flag)
  | conflict (flag other : Flag)
deriving DecidableEq, Repr

namespace Problem

def sentence : Problem → String
  | .unexpected argument _ | .afterEnd argument => s!"unexpected argument '{argument}' found"
  | .unknownCommand word _ => s!"unrecognized subcommand '{word}'"
  | .noValue flag => s!"a value is required for '{flag.shown}' but none was supplied"
  | .noChoice flag value _ => s!"invalid value '{value}' for '{flag.shown}'"
  | .badValue flag value reason => s!"invalid value '{value}' for '{flag.shown}': {reason}"
  | .surplusValue flag value =>
    s!"unexpected value '{value}' for '{flag.shown}' found; no more were expected"
  | .repeated flag => s!"the argument '{flag.shown}' cannot be used multiple times"
  | .conflict flag other => s!"the argument '{flag.shown}' cannot be used with '{other.shown}'"

def choices : Problem → List String
  | .noValue flag | .noChoice flag _ _ => flag.choices
  | _ => []

def alikeHint (kind : String) (names : List String) : Option String :=
  match names with
  | [] => none
  | [name] => some s!"a similar {kind} exists: '{name}'"
  | names =>
    let list := ", ".intercalate (names.map fun name => s!"'{name}'")
    some s!"some similar {kind}s exist: {list}"

def hint? : Problem → Option String
  | .unexpected _ similar =>
    alikeHint "argument" (similar.toList.map fun flag => "--" ++ flag.long)
  | .unknownCommand _ similar => alikeHint "subcommand" similar
  | .noChoice _ _ similar => alikeHint "value" similar.toList
  | .afterEnd word => some s!"subcommand '{word}' exists; to use it, remove the '--' before it"
  | _ => none

end Problem

structure Misuse where
  problem : Problem
  usage : Option String := none
  hasHelp : Bool := true
deriving DecidableEq, Repr

def Misuse.paragraphs (misuse : Misuse) : List String :=
  let choices :=
    if misuse.problem.choices.isEmpty then ""
    else
      let list := ", ".intercalate misuse.problem.choices
      s!"\n  [possible values: {list}]"
  ["error: " ++ misuse.problem.sentence ++ choices] ++
    (misuse.problem.hint?.toList.map fun hint => "  tip: " ++ hint) ++
    (misuse.usage.toList.map fun usage => "Usage: " ++ usage) ++
    if misuse.hasHelp then ["For more information, try '--help'."] else []

def Misuse.text (misuse : Misuse) : String := "\n\n".intercalate misuse.paragraphs ++ "\n"

end Lifeline.CommandLine
