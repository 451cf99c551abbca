import Lifeline.CommandLine.Arguments
import Lifeline.Config.Store

/-! # Overrides

The flags of the client override the configuration file, setting by setting.  The file has to give a
usable configuration by itself, and what comes out has to be usable as well; a fault of the file is
told first.
-/

namespace Lifeline

def CommandLine.Arguments.applyTo (args : CommandLine.Arguments) (c : Config) : Config :=
  { c with
    host := args.host.getD c.host
    port := args.port.getD c.port
    heartbeatInterval :=
      if args.noHeartbeat then .zero else args.heartbeatInterval.getD c.heartbeatInterval
    quitKeyword := args.quitKeyword.getD c.quitKeyword }

namespace Config

inductive ResolveError where
  | load (error : LoadError)
  | overrides (reason : Invalid)
deriving DecidableEq, Repr

def ResolveError.text : ResolveError → String
  | .load error => chained "load config" error.fullText
  | .overrides reason => chained "invalid command-line options" reason.text

def resolve (args : CommandLine.Arguments) (files : Files) (path : Path) :
    Except ResolveError Config := do
  let c ← (load files path).mapError .load
  let c := args.applyTo c
  match c.validate with
  | .ok () => return c
  | .error reason => throw (.overrides reason)

end Config

end Lifeline
