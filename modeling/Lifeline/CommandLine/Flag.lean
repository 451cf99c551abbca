import Lifeline.Display.Basic

/-! # Flags and commands

What can be given on the command line: flags, of which most take a value, and commands, which are
words.  The client itself is the outermost command; its flags override the configuration.
-/

namespace Lifeline.CommandLine

/-! ## Flags -/

inductive Flag where
  | host
  | port
  | heartbeatInterval
  | noHeartbeat
  | quitKeyword
  | output
  | config
  | help
  | version
deriving DecidableEq, Repr

namespace Flag

def long : Flag → String
  | .host => "host"
  | .port => "port"
  | .heartbeatInterval => "heartbeat-interval"
  | .noHeartbeat => "no-heartbeat"
  | .quitKeyword => "quit-keyword"
  | .output => "output"
  | .config => "config"
  | .help => "help"
  | .version => "version"

def short? : Flag → Option Char
  | .port => some 'p'
  | .help => some 'h'
  | .version => some 'V'
  | _ => none

def value? : Flag → Option String
  | .host => some "HOST"
  | .port => some "PORT"
  | .heartbeatInterval => some "SECS"
  | .quitKeyword => some "WORD"
  | .output => some "OUTPUT"
  | .config => some "PATH"
  | .noHeartbeat | .help | .version => none

def takesValue (flag : Flag) : Bool := flag.value?.isSome

def envName? : Flag → Option String
  | .host => some "TETHER_HOST"
  | .port => some "TETHER_PORT"
  | _ => none

def choices : Flag → List String
  | .output => ["text", "json"]
  | _ => []

def default? : Flag → Option String
  | .output => some "text"
  | _ => none

def summary : Flag → String
  | .host => "Peer host name or address"
  | .port => "Peer TCP port"
  | .heartbeatInterval => "Seconds without outbound traffic before a heartbeat is sent"
  | .noHeartbeat => "Never send heartbeats"
  | .quitKeyword => "Operator command that ends the session"
  | .output => "How session events are printed"
  | .config => "Config file to use instead of $TETHER_HOME/config.toml"
  | .help => "Print help"
  | .version => "Print version"

def shown (flag : Flag) : String :=
  match flag.value? with
  | none => "--" ++ flag.long
  | some name => s!"--{flag.long} <{name}>"

def isSetting : Flag → Bool
  | .help | .version => false
  | _ => true

def excludes : Flag → Flag → Bool
  | .noHeartbeat, .heartbeatInterval | .heartbeatInterval, .noHeartbeat => true
  | _, _ => false

end Flag

/-! ## Commands -/

inductive Command where
  | client
  | config
  | path
  | init
  | generate
deriving DecidableEq, Repr

namespace Command

def word : Command → String
  | .client => "tether"
  | .config => "config"
  | .path => "path"
  | .init => "init"
  | .generate => "generate"

def summary : Command → String
  | .client => "Interactive line client with heartbeat keep-alive"
  | .config => "Manage configuration"
  | .path => "Show the path to the config file"
  | .init => "Initialize a default config file (if not present)"
  | .generate => "Print a fresh config generated from built-in defaults"

def followers : Command → List Command
  | .client => [.config]
  | .config => [.path, .init, .generate]
  | .path | .init | .generate => []

def needsFollower : Command → Bool
  | .config => true
  | _ => false

def words : Command → List String
  | .client => ["tether"]
  | .config => ["tether", "config"]
  | command => ["tether", "config", command.word]

def flags : Command → List Flag
  | .client =>
    [.host, .port, .heartbeatInterval, .noHeartbeat, .quitKeyword, .output, .config, .help, .version]
  | _ => [.help]

def helpWord : String := "help"

def nextWords (command : Command) : List String :=
  match command.followers with
  | [] => []
  | followers => followers.map word ++ [helpWord]

def fullName (command : Command) : String := " ".intercalate command.words

def usage : Command → String
  | .client => Command.client.fullName ++ " [OPTIONS] [COMMAND]"
  | .config => Command.config.fullName ++ " <COMMAND>"
  | command => command.fullName

/-- The flags of a command that say how a session is to be, as a choice of one of them. -/
def settings (command : Command) : String :=
  "<" ++ "|".intercalate ((command.flags.filter Flag.isSetting).map Flag.shown) ++ ">"

def usageWith (command : Command) (flags : List Flag) : String :=
  if flags.isEmpty then command.usage
  else
    " ".intercalate (command.words ++ flags.map Flag.shown ++
      if command.needsFollower then ["<COMMAND>"] else [])

/-- How a command is used with a flag that comes behind some others.  If settings are among those,
    they are told as a choice of all settings, which covers the flag if it is one as well. -/
def usageBehind (command : Command) (given : List Flag) (flag : Flag) : String :=
  if given.any Flag.isSetting then
    let alone := if flag.isSetting then [] else [flag.shown]
    " ".intercalate (command.words ++ alone ++ [command.settings])
  else command.usageWith [flag]

end Command

end Lifeline.CommandLine
