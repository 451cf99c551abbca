import Lifeline.Fault
import Lifeline.Files.Path
import Lifeline.Text.Bytes

/-! # Directories and files

A `Files` is a tree of directories and regular files, kept as what stands at each place of it; the
place of the root is empty.  A path whose text the system can take is followed name by name from the
root or from the current directory, through directories that exist.  Every operation on a path either
works or is refused with the cause that a system gives, and one that is refused changes nothing.
-/

namespace Lifeline

/-- The names on the way from the root to something. -/
abbrev Place := List String

inductive Files.Entry where
  | directory
  | file (content : Bytes)
deriving DecidableEq, Repr

structure Files where
  entries : List (Place × Files.Entry) := []
  /-- Where paths that are not absolute start. -/
  current : Place := []
deriving Repr

/-! ## Causes -/

def Cause.notThere : Cause := .numbered 2
def Cause.busy : Cause := .numbered 16
def Cause.alreadyThere : Cause := .numbered 17
def Cause.noDirectory : Cause := .numbered 20
def Cause.isDirectory : Cause := .numbered 21
def Cause.nameTooLong : Cause := .numbered 36

def Cause.unspeakable : Cause :=
  .worded .invalidInput "file name contained an unexpected NUL byte"

namespace Files

/-! ## Places -/

def entry? (files : Files) (place : Place) : Option Entry :=
  if place.isEmpty then some .directory else files.entries.lookup place

def erase (files : Files) (place : Place) : Files :=
  { files with entries := files.entries.filter fun entry => entry.1 ≠ place }

def put (files : Files) (place : Place) (entry : Entry) : Files :=
  { files with entries := (place, entry) :: (files.erase place).entries }

def allFiles (files : Files) : List (Place × Bytes) :=
  files.entries.filterMap fun (place, entry) =>
    match entry with
    | .directory => none
    | .file content => some (place, content)

/-! ## Following a path -/

def requireDirectory (files : Files) (place : Place) : Except Cause Unit :=
  match files.entry? place with
  | some .directory => .ok ()
  | some (.file _) => .error .noDirectory
  | none => .error .notThere

def longestName : Nat := 255

def requireShort (name : String) : Except Cause Unit :=
  if (Text.encode name).length ≤ longestName then .ok () else .error .nameTooLong

def longestPath : Nat := 4095

/-- Refuses a path whose text has a character that ends all texts of the system, or is too long. -/
def requireUsable (p : Path) : Except Cause Unit :=
  if p.text.toList.contains '\x00' then .error .unspeakable
  else if (Text.encode p.text).length ≤ longestPath then .ok ()
  else .error .nameTooLong

def step (files : Files) (place : Place) (name : String) : Except Cause Place := do
  files.requireDirectory place
  if name = "." then return place
  if name = ".." then return place.dropLast
  requireShort name
  match files.entry? (place ++ [name]) with
  | some _ => return place ++ [name]
  | none => throw .notThere

def follow (files : Files) (p : Path) (names : List String) : Except Cause Place :=
  if p.isEmpty then .error .notThere
  else names.foldlM files.step (if p.isAbsolute then [] else files.current)

/-- A place and those that names lead to from it one by one, whatever is there. -/
def placesFrom (place : Place) : List String → List Place
  | [] => [place]
  | name :: names =>
    let next :=
      if name = "." then place else if name = ".." then place.dropLast else place ++ [name]
    place :: placesFrom next names

/-- The places that following a path may come to. -/
def placesOf (files : Files) (p : Path) : List Place :=
  placesFrom (if p.isAbsolute then [] else files.current) p.names

/-- The place that a path leads to, if something is there.  Only a directory may have a slash behind
    it. -/
def find (files : Files) (p : Path) : Except Cause Place := do
  requireUsable p
  let place ← files.follow p p.names
  if p.endsInSlash then files.requireDirectory place
  return place

def holds (files : Files) (p : Path) : Bool := (files.find p).isOk

def holdsDirectory (files : Files) (p : Path) : Bool :=
  match files.find p with
  | .ok place => files.entry? place = some .directory
  | .error _ => false

/-- The directory around the last name of a path, and this name; the root has none. -/
def around (files : Files) (p : Path) : Except Cause (Place × Option String) := do
  requireUsable p
  let place ← files.follow p p.names.dropLast
  files.requireDirectory place
  return (place, p.names.getLast?)

/-! ## Operations -/

def read (files : Files) (p : Path) : Except Cause Bytes := do
  match files.entry? (← files.find p) with
  | some (.file content) => return content
  | some .directory => throw .isDirectory
  | none => throw .notThere

def makeDirectory (files : Files) (p : Path) : Except Cause Files := do
  match ← files.around p with
  | (_, none) => throw .alreadyThere
  | (place, some name) =>
    if Path.isDots name then throw .alreadyThere
    requireShort name
    match files.entry? (place ++ [name]) with
    | some _ => throw .alreadyThere
    | none => return files.put (place ++ [name]) .directory

/-- Gives a file a content, and makes the file if there is none. -/
def write (files : Files) (p : Path) (content : Bytes) : Except Cause Files := do
  match ← files.around p with
  | (_, none) => throw .isDirectory
  | (place, some name) =>
    if Path.isDots name || p.endsInSlash then throw .isDirectory
    requireShort name
    match files.entry? (place ++ [name]) with
    | some .directory => throw .isDirectory
    | _ => return files.put (place ++ [name]) (.file content)

def moveFile (files : Files) (source target : Path) : Except Cause Files := do
  requireUsable target
  let start ← files.find source
  match files.entry? start, ← files.around target with
  | _, (_, none) => throw .busy
  | some (.file content), (place, some name) =>
    if Path.isDots name then throw .busy
    if target.endsInSlash then throw .noDirectory
    requireShort name
    match files.entry? (place ++ [name]) with
    | some .directory => throw .isDirectory
    | _ => return (files.erase start).put (place ++ [name]) (.file content)
  | _, _ => throw .isDirectory

def remove (files : Files) (p : Path) : Except Cause Files := do
  let place ← files.find p
  match files.entry? place with
  | some (.file _) => return files.erase place
  | _ => throw .isDirectory

/-! ## Directories inside directories -/

/-- Makes the first of some paths a directory, and the others as far as they are needed, of which
    each is around the one before it.  What was made remains if something later is refused. -/
def makeDirectories (files : Files) : List Path → Except Cause Unit × Files
  | [] => (.ok (), files)
  | p :: around =>
    if p.isEmpty then (.ok (), files)
    else
      match files.makeDirectory p with
      | .ok files => (.ok (), files)
      | .error cause =>
        if cause = .notThere then
          match files.makeDirectories around with
          | (.error cause, files) => (.error cause, files)
          | (.ok (), files) =>
            match files.makeDirectory p with
            | .ok files => (.ok (), files)
            | .error cause =>
              if files.holdsDirectory p then (.ok (), files) else (.error cause, files)
        else if files.holdsDirectory p then (.ok (), files)
        else (.error cause, files)

def makePath (files : Files) (p : Path) : Except Cause Unit × Files :=
  files.makeDirectories p.ancestors

end Files

end Lifeline
