import Lifeline.CommandLine.Scan
import Lifeline.Config.Overrides
import Lifeline.Session.Log
import Lifeline.Transport.Connect

/-! # The program

The program reads its command line.  It answers at once, by some text and an exit status, or it
becomes a `Client` with all that it needs for one session; files may have changed until then.  A
client that cannot connect reports that, and the outcome of its session decides how it ends.
-/

namespace Lifeline

structure Report where
  output : String := ""
  errors : String := ""
  status : Nat := 0
deriving DecidableEq, Repr

structure Client where
  config : Config
  output : CommandLine.Output
  logged : String := ""
deriving DecidableEq, Repr

inductive Start where
  | ended (report : Report)
  | connecting (client : Client)
deriving DecidableEq, Repr

namespace Report

def failureStatus : Nat := 1

def misuseStatus : Nat := 2

def failed (error : String) : Report := { errors := error ++ "\n", status := failureStatus }

def ofReply (env : Environment) : CommandLine.Reply → Report
  | .help command true => { output := command.help env }
  | .help command false => { errors := command.help env, status := misuseStatus }
  | .helpOnHelp command => { output := command.helpOnHelp }
  | .version => { output := CommandLine.versionText }
  | .misuse misuse => { errors := misuse.text, status := misuseStatus }

end Report

namespace Program

/-! ## Configuration -/

def initConfig (env : Environment) (files : Files) : Report × Files :=
  let path := env.configPath
  match Config.init files path with
  | (.ok (), files) => ({ output := s!"Created config at {path.text}\n" }, files)
  | (.error error, files) =>
    (.failed (chained s!"init config at {path.text}" error.text), files)

/-! ## Logging -/

/-- Adds text to the end of a file, which is made if it is not there. -/
def appendTo (files : Files) (path : Path) (text : String) : Except Cause Files :=
  let content := (files.read path).toOption.getD []
  files.write path (content ++ Text.encode text)

def logVariable : String := "TETHER_LOG"

/-- The variable that keeps escape sequences out of what is logged, if it has any value. -/
def plainVariable : String := "NO_COLOR"

def errorForm (env : Environment) : Log.Form :=
  if ((env.text? plainVariable).getD "").isEmpty then .coloured else .plain

def formOf (env : Environment) (c : Config) : Log.Form :=
  if c.logPath.isSome then .file else errorForm env

def linesOf (env : Environment) (c : Config) (time : String) (records : List Log.Record) : String :=
  let filter := Log.Filter.ofVariable (env.text? logVariable)
  let kept := records.filter fun record => filter.keeps record
  String.join (kept.map fun record => record.line time (formOf env c))

def log (env : Environment) (files : Files) (time : String) (c : Config)
    (records : List Log.Record) : Except String (String × Files) :=
  let lines := linesOf env c time records
  match c.logPath with
  | none => .ok (lines, files)
  | some text =>
    let path := Path.ofText text
    match appendTo files path lines with
    | .ok files => .ok ("", files)
    | .error cause => .error (chained s!"open log file {path.text}" cause.text)

def connecting (c : Config) : Log.Record where
  level := .debug
  source := Transport.logSource
  message := "connecting"
  fields :=
    let limit := if c.connectTimeout = 0 then "None" else s!"Some({c.connectTimeout.toNat}s)"
    [("addr", addressOf c.host c.port), ("timeout", limit)]

def connected (c : Config) : Log.Record where
  level := .info
  source := Transport.logSource
  message := "connected"
  fields := [("addr", addressOf c.host c.port)]

/-- The records of the end of the operator's input, which may have ended because it is no text. -/
def inputOver (isText : Bool) : List Log.Record :=
  let failed : Log.Record := {
    level := .warn
    source := Operator.logSource
    message := "stdin read failed"
    fields := [("error", "stream did not contain valid UTF-8")] }
  let finished : Log.Record := {
    level := .debug
    source := Operator.logSource
    message := "stdin reader finished" }
  if isText then [finished] else [failed, finished]

def notShown (output : CommandLine.Output) (cause : Cause) : Log.Record where
  level := .warn
  source := match output with
    | .text => "tether::modes::text"
    | .json => "tether::modes::json"
  message := "failed to write to stdout"
  fields := [("error", cause.text)]

/-! ## Sessions -/

def startClient (env : Environment) (files : Files) (time : String)
    (args : CommandLine.Arguments) : Start × Files :=
  match Config.resolve args files (args.config.getD env.configPath) with
  | .error error => (.ended (.failed error.text), files)
  | .ok config =>
    match log env files time config [connecting config] with
    | .error error => (.ended (.failed error), files)
    | .ok (logged, files) => (.connecting { config, output := args.output, logged }, files)

def start (env : Environment) (files : Files) (time : String) (arguments : List String) :
    Start × Files :=
  match CommandLine.read env arguments with
  | .error reply => (.ended (.ofReply env reply), files)
  | .ok request =>
    match request.command with
    | .client | .config => startClient env files time request.arguments
    | .path => (.ended { output := env.configPath.text ++ "\n" }, files)
    | .init =>
      let (report, files) := initConfig env files
      (.ended report, files)
    | .generate => (.ended { output := Config.template }, files)

/-! ## What a start depends on -/

def variableNames : List String :=
  ["HOME", "TETHER_HOME", "TETHER_HOST", "TETHER_PORT", logVariable, plainVariable]

/-- The paths that a start of the program may look at apart from a log file: those of configuration
    files, and that of the temporary file beside the usual one. -/
def pathsOf (env : Environment) (arguments : List String) : List Path :=
  match CommandLine.read env arguments with
  | .error _ => []
  | .ok request =>
    request.arguments.config.toList ++ [env.configPath, Config.temporary env.configPath]

def logPathOf (env : Environment) (files : Files) (arguments : List String) : Option Path :=
  match CommandLine.read env arguments with
  | .error _ => none
  | .ok request =>
    let args := request.arguments
    match Config.resolve args files (args.config.getD env.configPath) with
    | .ok c => c.logPath.map Path.ofText
    | .error _ => none

end Program

namespace Client

def address (client : Client) : String := addressOf client.config.host client.config.port

def mode (client : Client) (isTerminal : Bool) : Display.Mode :=
  match client.output with
  | .text => .text isTerminal
  | .json => .json

def greeting (client : Client) : Event := .connected client.address client.config.quitKeyword

def session (client : Client) (transport : Transport) (now : Nat) : Session :=
  let options := client.config.options
  .start transport options (.sentinel options.heartbeatSentinel) now

def refused (client : Client) (cause : Cause) : Report :=
  let error : ConnectError := ⟨client.address, cause⟩
  { errors := client.logged ++ error.fullText ++ "\n", status := Report.failureStatus }

/-- The end of a client after its session, apart from what was shown. -/
def finished : Outcome → Report
  | .operatorQuit | .inputClosed | .peerClosed => {}
  | .interrupted => { status := Stop.interruptedStatus }
  | .fault fault => .failed fault.fullText

end Client

end Lifeline
