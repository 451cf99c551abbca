import Lifeline.Config.Basic
import Lifeline.Toml.Passage

/-! # Configurations in documents

A document gives settings by name: each one that it names takes the place of its default, and names
that stand for no setting are passed over.  The settings are read in the order of the document, so a
document with several unsuitable items is refused for the first of them.
-/

namespace Lifeline

namespace Config

/-! ## Single settings -/

def readText : Toml.Item → Except Mismatch String
  | .string value => .ok value
  | item => .error (.wrongType item.found "a string")

/-- Reads a number; an integer counts as one. -/
def readNumber : Toml.Item → Except Mismatch Binary64
  | .number value => .ok value
  | .integer value => .ok (.ofInt value)
  | item => .error (.wrongType item.found "f64")

def readNatural (limit : Nat) (type : String) : Toml.Item → Except Mismatch Nat
  | .integer value =>
    if 0 ≤ value ∧ value < limit then .ok value.toNat
    else .error (.wrongValue (.integer value) type)
  | item => .error (.wrongType item.found type)

def readEntry (c : Config) : String × Toml.Item → Except Mismatch Config
  | ("host", item) => do return { c with host := ← readText item }
  | ("port", item) => do return { c with port := .ofNat (← readNatural (twoTo 16) "u16" item) }
  | ("heartbeat_interval_secs", item) => do
    return { c with heartbeatInterval := ← readNumber item }
  | ("heartbeat_sentinel", item) => do return { c with heartbeatSentinel := ← readText item }
  | ("receive_buffer_size", item) => do
    return { c with receiveBufferSize := .ofNat (← readNatural (twoTo 64) "usize" item) }
  | ("quit_keyword", item) => do return { c with quitKeyword := ← readText item }
  | ("connect_timeout_secs", item) => do
    return { c with connectTimeout := .ofNat (← readNatural (twoTo 64) "u64" item) }
  | ("log_file", item) => do return { c with logFile := some (← readText item) }
  | _ => .ok c

/-! ## Documents -/

/-- The configuration that a table gives, with defaults for what it does not name. -/
def ofTable (t : Toml.Table) : Except Mismatch Config := t.foldlM readEntry {}

def unsuitable? (t : Toml.Table) : Option String :=
  (t.find? fun entry => !(readEntry {} entry).isOk).map (·.1)

inductive Unreadable where
  | malformed
  /-- An item is not suitable; it stands at a passage. -/
  | mismatch (mismatch : Mismatch) (passage : Option Toml.Passage)
deriving DecidableEq, Repr

def mismatchText (mismatch : Mismatch) (passage : Option Toml.Passage) : String :=
  (passage.map Toml.Passage.excerpt).getD "" ++ mismatch.text Binary64.pointedText ++ "\n"

def ofText (text : String) : Except Unreadable Config :=
  match Toml.read text with
  | none => .error .malformed
  | some t =>
    (ofTable t).mapError fun mismatch =>
      .mismatch mismatch ((unsuitable? t).bind fun name => Toml.itemPassage? name text)

end Config

end Lifeline
