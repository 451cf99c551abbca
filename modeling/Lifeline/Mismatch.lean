import Lifeline.Number.Binary64
import Lifeline.Text.Quoted

/-! # Data of the wrong shape

A document may be well formed and still not hold the data that a reader asks for.  A `Mismatch` says
how it falls short, in terms of what was found and what was expected.
-/

namespace Lifeline

inductive Found where
  | null
  | boolean (value : Bool)
  | integer (value : Int)
  | number (value : Binary64)
  | string (value : String)
  | sequence
  | map
deriving DecidableEq, Repr

/-- Names what was found, with a given way to write numbers. -/
def Found.text (numberText : Binary64 → String) : Found → String
  | .null => "null"
  | .boolean value => s!"boolean `{value}`"
  | .integer value => s!"integer `{value}`"
  | .number value => s!"floating point `{numberText value}`"
  | .string value => "string " ++ Text.quoted value
  | .sequence => "sequence"
  | .map => "map"

inductive Mismatch where
  | wrongType (found : Found) (expected : String)
  | wrongValue (found : Found) (expected : String)
  | wrongLength (count : Nat) (expected : String)
  | unknownVariant (name : String) (known : List String)
  | missingField (name : String)
  | duplicateField (name : String)
deriving DecidableEq, Repr

def Mismatch.text (numberText : Binary64 → String) : Mismatch → String
  | .wrongType found expected => s!"invalid type: {found.text numberText}, expected {expected}"
  | .wrongValue found expected => s!"invalid value: {found.text numberText}, expected {expected}"
  | .wrongLength count expected => s!"invalid length {count}, expected {expected}"
  | .unknownVariant name known =>
    let names := ", ".intercalate (known.map fun name => s!"`{name}`")
    s!"unknown variant `{name}`, expected one of {names}"
  | .missingField name => s!"missing field `{name}`"
  | .duplicateField name => s!"duplicate field `{name}`"

end Lifeline
