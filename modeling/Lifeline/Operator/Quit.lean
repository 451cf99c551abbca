import Lifeline.Text.Blank
import Lifeline.Text.Letters

/-! # The quit command

A line asks to quit when it is the configured keyword, whatever its case and the white space around
it.
-/

namespace Lifeline.Operator

def isQuit (line keyword : String) : Bool := Text.agree (Text.trim line) (Text.trim keyword)

end Lifeline.Operator
