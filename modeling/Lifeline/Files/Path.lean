/-! # Paths

Slashes divide the text of a path into names.  A path that begins with a slash starts at the root,
any other one at the current directory.  Empty names, which come from slashes side by side or at an
end, lead nowhere; the operations on paths keep them where they stand, so that a path is shown the
way it was given.
-/

namespace Lifeline

/-- A path, as the texts before, between and after its slashes. -/
structure Path where
  first : String
  rest : List String := []
deriving DecidableEq, Repr

namespace Path

/-! ## Text -/

def pieces : List Char → List Char × List (List Char)
  | [] => ([], [])
  | c :: cs =>
    let (first, rest) := pieces cs
    if c = '/' then ([], first :: rest) else (c :: first, rest)

def ofText (text : String) : Path :=
  let (first, rest) := pieces text.toList
  ⟨String.ofList first, rest.map String.ofList⟩

def text (p : Path) : String := "/".intercalate (p.first :: p.rest)

/-! ## Shape -/

def empty : Path := ⟨"", []⟩

def root : Path := ⟨"", [""]⟩

def isEmpty (p : Path) : Bool := p.first.isEmpty && p.rest.isEmpty

def isAbsolute (p : Path) : Bool := p.first.isEmpty && !p.rest.isEmpty

def endsInSlash (p : Path) : Bool := p.rest.getLast? = some ""

def names (p : Path) : List String := (p.first :: p.rest).filter (!·.isEmpty)

/-- Whether a name stands for the directory that it is in or for the one around that. -/
def isDots (name : String) : Bool := name = "." || name = ".."

/-! ## Joining -/

/-- A path seen from another one.  An absolute path is the same seen from anywhere. -/
def join (base p : Path) : Path :=
  if p.isAbsolute || base.isEmpty then p
  else if base.endsInSlash then ⟨base.first, base.rest.dropLast ++ p.first :: p.rest⟩
  else ⟨base.first, base.rest ++ p.first :: p.rest⟩

/-! ## The last name -/

def trimNames (names : List String) : List String :=
  (names.reverse.dropWhile fun name => name = "" || name = ".").reverse

/-- The path with some names behind the first piece, where nothing at all means the root. -/
def ofPieces (first : String) (rest : List String) : Path :=
  if first.isEmpty && rest.isEmpty then root else ⟨first, rest⟩

/-- The path around the last name of a path; the root and the path without text have none. -/
def parent? (p : Path) : Option Path :=
  match trimNames p.rest with
  | [] => if p.first.isEmpty then none else some empty
  | rest => some (ofPieces p.first (trimNames rest.dropLast))

def ancestorsFrom : Nat → Path → List Path
  | 0, p => [p]
  | limit + 1, p =>
    match p.parent? with
    | none => [p]
    | some around => p :: ancestorsFrom limit around

def ancestors (p : Path) : List Path := ancestorsFrom (p.rest.length + 1) p

/-- A name up to its last point, unless the name begins with that point. -/
def stem (name : String) : String :=
  match name.toList.reverse.dropWhile (· ≠ '.') with
  | _ :: c :: cs => String.ofList (c :: cs).reverse
  | _ => name

def withEnding (ending name : String) : String := stem name ++ "." ++ ending

/-- The path with another ending behind the last point of its last name.  A path that does not end in
    the name of something stays as it is. -/
def withExtension (ending : String) (p : Path) : Path :=
  match trimNames p.rest with
  | [] =>
    if p.first.isEmpty || isDots p.first then p else ⟨withEnding ending p.first, []⟩
  | rest =>
    match rest.getLast? with
    | none => p
    | some last =>
      if last = ".." then p else ⟨p.first, rest.dropLast ++ [withEnding ending last]⟩

end Path

end Lifeline
