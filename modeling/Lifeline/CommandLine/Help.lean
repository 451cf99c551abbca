import Lifeline.CommandLine.Flag
import Lifeline.Environment

/-! # Help

The help for a command: what it does, how it is used, the commands that can follow it and its flags,
each with what is known of its value.  The lists have two columns, the second of which begins two
spaces behind the longest entry of the first.
-/

namespace Lifeline.CommandLine

def columns (rows : List (String × String)) : List String :=
  let width := (rows.map (·.1.length)).foldl max 0 + 2
  rows.map fun (left, right) =>
    "  " ++ left ++ String.ofList (List.replicate (width - left.length) ' ') ++ right

def Flag.remarks (env : Environment) (flag : Flag) : List String :=
  let standIn := flag.envName?.toList.map fun name =>
    let value := (env.text? name).getD ""
    s!"[env: {name}={value}]"
  let default := flag.default?.toList.map fun value => s!"[default: {value}]"
  let choices :=
    if flag.choices.isEmpty then []
    else
      let list := ", ".intercalate flag.choices
      [s!"[possible values: {list}]"]
  standIn ++ default ++ choices

def Flag.row (env : Environment) (flag : Flag) : String × String :=
  let short := match flag.short? with
    | none => "    "
    | some c => String.ofList ['-', c, ',', ' ']
  (short ++ flag.shown, " ".intercalate (flag.summary :: flag.remarks env))

def helpSummary : String := "Print this message or the help of the given subcommand(s)"

def Command.rows (command : Command) : List (String × String) :=
  match command.followers with
  | [] => []
  | followers =>
    followers.map (fun follower => (follower.word, follower.summary)) ++
      [(Command.helpWord, helpSummary)]

def titled (title : String) (lines : List String) : List String :=
  if lines.isEmpty then [] else "" :: title :: lines

def unlines (lines : List String) : String := String.join (lines.map (· ++ "\n"))

def Command.help (env : Environment) (command : Command) : String :=
  unlines
    ([command.summary, "", "Usage: " ++ command.usage] ++
      titled "Commands:" (columns command.rows) ++
      titled "Options:" (columns (command.flags.map (Flag.row env))))

def Command.helpUsage (command : Command) : String :=
  s!"{command.fullName} {helpWord} [COMMAND]..."

def Command.helpOnHelp (command : Command) : String :=
  unlines
    ([helpSummary, "", "Usage: " ++ command.helpUsage] ++
      titled "Arguments:" (columns [("[COMMAND]...", "Print help for the subcommand(s)")]))

def versionText : String := "tether 0.1\n"

end Lifeline.CommandLine
