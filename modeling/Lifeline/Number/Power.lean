/-! # Powers

Powers of the base that patterns are read in and of the base that digits are written in.
-/

namespace Lifeline

def twoTo (n : Nat) : Nat := Nat.pow 2 n

def tenTo (n : Nat) : Nat := Nat.pow 10 n

end Lifeline
