import Lifeline.Config.Reading
import Lifeline.Config.Template
import Lifeline.Files.Tree

/-! # Configuration files

`load` reads and validates the configuration at a path, where no file means the defaults.  `init`
writes a new file where none is found: the text goes to a temporary file beside the path first, which
then takes the place of the path in one move.
-/

namespace Lifeline.Config

/-! ## Loading -/

inductive LoadError where
  | unreadable (path : Path) (cause : Cause)
  | malformed (path : Path)
  | mismatch (path : Path) (mismatch : Mismatch) (passage : Option Toml.Passage)
  | invalid (path : Path) (reason : Invalid)
deriving DecidableEq, Repr

def LoadError.text : LoadError → String
  | .unreadable path cause => chained s!"Failed to read config from {path.text}" cause.text
  | .malformed path | .mismatch path _ _ => s!"Failed to parse config from {path.text}"
  | .invalid path reason => chained s!"Invalid config at {path.text}" reason.text

def LoadError.fullText (error : LoadError) : String :=
  match error with
  | .mismatch _ reason passage => chained error.text (mismatchText reason passage)
  | _ => error.text

def notText : Cause := .worded .invalidData "stream did not contain valid UTF-8"

def readFile (files : Files) (path : Path) : Except Cause String := do
  match Text.decode? (← files.read path) with
  | some text => return text
  | none => throw notText

def parse (files : Files) (path : Path) : Except LoadError Config :=
  if files.holds path then
    match readFile files path with
    | .error cause => .error (.unreadable path cause)
    | .ok text =>
      match ofText text with
      | .ok c => .ok c
      | .error .malformed => .error (.malformed path)
      | .error (.mismatch mismatch passage) => .error (.mismatch path mismatch passage)
  else .ok {}

def load (files : Files) (path : Path) : Except LoadError Config := do
  let c ← parse files path
  match c.validate with
  | .ok () => return c
  | .error reason => throw (.invalid path reason)

/-! ## Writing -/

inductive InitError where
  | exists (path : Path)
  | directory (path : Path) (cause : Cause)
  | write (path : Path) (cause : Cause)
  | move (source target : Path) (cause : Cause)
deriving DecidableEq, Repr

def InitError.text : InitError → String
  | .exists path => s!"Config file already exists at {path.text}"
  | .directory path cause => chained s!"Failed to create directory {path.text}" cause.text
  | .write path cause => chained s!"Failed to write config to {path.text}" cause.text
  | .move source target cause =>
    chained s!"Failed to rename {source.text} to {target.text}" cause.text

def makeParents (files : Files) (path : Path) : Except InitError Unit × Files :=
  match path.parent? with
  | none => (.ok (), files)
  | some parent =>
    match files.makePath parent with
    | (.ok (), files) => (.ok (), files)
    | (.error cause, files) => (.error (.directory parent cause), files)

def temporary (path : Path) : Path := path.withExtension "toml.tmp"

/-- Writes a text to a path by way of the temporary file beside it. -/
def store (files : Files) (path : Path) (text : String) : Except InitError Unit × Files :=
  match files.write (temporary path) (Text.encode text) with
  | .error cause => (.error (.write (temporary path) cause), files)
  | .ok files =>
    match files.moveFile (temporary path) path with
    | .error cause => (.error (.move (temporary path) path cause), files)
    | .ok files => (.ok (), files)

def init (files : Files) (path : Path) : Except InitError Unit × Files :=
  if files.holds path then (.error (.exists path), files)
  else
    match makeParents files path with
    | (.error error, files) => (.error error, files)
    | (.ok (), files) => store files path template

end Lifeline.Config
