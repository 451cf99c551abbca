import Lifeline.Files.Path
import Lifeline.Text.Bytes

/-! # Environment

The variables that the program is started with, and the directory that the configuration is kept in:
the one that a variable names, or one below the home directory of the user.
-/

namespace Lifeline

structure Environment where
  values : List (String × Bytes) := []
  accountHome : Option Path := none
deriving Repr

namespace Environment

def text? (env : Environment) (name : String) : Option String :=
  (env.values.lookup name).bind Text.decode?

/-- The home directory of the user: the one that a variable gives, if it gives any, or else that of
    the account. -/
def userHome? (env : Environment) : Option Path :=
  match env.values.lookup "HOME" with
  | none | some [] => env.accountHome
  | some bytes => some (.ofText (Text.decodeLossy bytes))

def programHome (env : Environment) : Path :=
  match env.text? "TETHER_HOME" with
  | some home => .ofText home
  | none =>
    match env.userHome? with
    | some home => (home.join ⟨".config", []⟩).join ⟨"tether", []⟩
    | none => ⟨".tether", []⟩

def configPath (env : Environment) : Path := env.programHome.join ⟨"config.toml", []⟩

end Environment

end Lifeline
