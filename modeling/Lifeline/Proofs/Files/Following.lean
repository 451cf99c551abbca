import Lifeline.Proofs.Files.Paths
import Lifeline.Proofs.Files.Tree

/-! # Following ordinary paths in a tree

Following a path in a tree ends in one of three ways (`Outcome`): something is at the place that it
leads to, a file is in the way, or nothing is there.  Which one it is follows from what is at the places
alone, and with it what an operation on a path finds (`outcome_find`), what is around the last name
(`surroundings`), and what the operations do there.
-/

namespace Lifeline.Files

variable {files after : Files} {p around : Path} {place other : Place} {front names : List String}
  {name : String} {entry : Entry} {content : Bytes}

/-! ## Destinations -/

/-- Whether the system takes the text of a path and each of its names. -/
structure Takes (p : Path) : Prop where
  usable : requireUsable p = .ok ()
  short : ∀ name ∈ p.names, requireShort name = .ok ()

/-- Where following a path starts. -/
def start (files : Files) (p : Path) : Place := if p.isAbsolute then [] else files.current

/-- The place that an ordinary path leads to, if something is there. -/
def destination (files : Files) (p : Path) : Place := files.start p ++ p.names

theorem start_congr (same : after.current = files.current) (p : Path) :
    after.start p = files.start p := by
  rw [start, start, same]

theorem destination_congr (same : after.current = files.current) (p : Path) :
    after.destination p = files.destination p := by
  rw [destination, destination, start_congr same]

theorem destination_of_nameless (nameless : p.names = []) : files.destination p = files.start p := by
  rw [destination, nameless, List.append_nil]

theorem destination_of_names (named : p.names = front ++ [name]) :
    files.destination p = files.start p ++ front ++ [name] := by
  rw [destination, named, List.append_assoc]

theorem destination_of_isAround (before : around.IsAround front p) :
    files.destination around = files.start p ++ front := by
  rw [destination, before.names, start, start, before.isAbsolute]

theorem IsTree.start_directory (tree : files.IsTree) (p : Path) :
    files.entry? (files.start p) = some .directory := by
  by_cases absolute : p.isAbsolute
  · simp [start, absolute, entry?]
  · simpa [start, absolute] using tree.current

/-- The system takes the paths around one that it takes, which are no longer. -/
theorem requireUsable_of_isPrefix (shorter : around.text.toList <+: p.text.toList)
    (usable : requireUsable p = .ok ()) : requireUsable around = .ok () := by
  have size : (Text.encode around.text).length ≤ (Text.encode p.text).length := by
    obtain ⟨more, same⟩ := shorter
    rw [Text.encode, Text.encode, Text.encodeChars, Text.encodeChars, ← same, List.flatMap_append,
      List.length_append]
    omega
  unfold requireUsable at usable ⊢
  by_cases spoken : p.text.toList.contains '\x00'
  · rw [if_pos spoken] at usable
    cases usable
  · have spoken' : ¬ around.text.toList.contains '\x00' := by
      simp only [List.contains_iff_mem] at spoken ⊢
      exact fun member => spoken (shorter.subset member)
    rw [if_neg spoken] at usable
    by_cases fits : (Text.encode p.text).length ≤ longestPath
    · rw [if_neg spoken', if_pos (Nat.le_trans size fits)]
    · rw [if_neg fits] at usable
      cases usable

theorem Takes.of_isAround (takes : Takes p) (named : p.names = front ++ [name])
    (before : around.IsAround front p) : Takes around := by
  constructor
  · exact requireUsable_of_isPrefix before.text takes.usable
  · intro name' member
    apply takes.short
    rw [named, ← before.names]
    exact List.mem_append_left _ member

/-! ## Following names -/

/-- What following a path to a place comes to: the place, if something is there, and otherwise a
    refusal that tells whether a file is in the way. -/
inductive Outcome (files : Files) (place : Place) : Except Cause Place → Prop where
  | there {entry : Entry} (found : files.entry? place = some entry) : Outcome files place (.ok place)
  | blocked (absent : files.entry? place = none) (blocked : files.IsBlocked place) :
      Outcome files place (.error .noDirectory)
  | missing (absent : files.entry? place = none) (free : ¬ files.IsBlocked place) :
      Outcome files place (.error .notThere)

theorem step_of_directory (directory : files.entry? place = some .directory)
    (dotless : Path.isDots name = false) (short : requireShort name = .ok ()) :
    files.step place name =
      match files.entry? (place ++ [name]) with
      | some _ => .ok (place ++ [name])
      | none => .error .notThere := by
  have notHere : name ≠ "." := by
    rintro rfl
    exact absurd dotless (by decide)
  have notUp : name ≠ ".." := by
    rintro rfl
    exact absurd dotless (by decide)
  simp only [step, requireDirectory, directory, short, if_neg notHere, if_neg notUp]
  cases files.entry? (place ++ [name]) <;> rfl

theorem step_of_file (file : files.entry? place = some (.file content)) (name : String) :
    files.step place name = .error .noDirectory := by
  simp only [step, requireDirectory, file]
  rfl

/-- The induction goes on as long as there are directories.  The first name that leads to something
    else decides the outcome: nothing is behind one that is missing, nor behind a file. -/
theorem IsTree.outcome_foldlM_step (tree : files.IsTree)
    (directory : files.entry? place = some .directory)
    (ordinary : ∀ name ∈ names, Path.isDots name = false ∧ requireShort name = .ok ()) :
    files.Outcome (place ++ names) (names.foldlM files.step place) := by
  induction names generalizing place with
  | nil =>
    rw [List.append_nil]
    exact .there directory
  | cons name names inductionHypothesis =>
    obtain ⟨⟨dotless, short⟩, ordinary⟩ := List.forall_mem_cons.mp ordinary
    rw [List.foldlM_cons, step_of_directory directory dotless short,
      List.append_cons place name names]
    cases there : files.entry? (place ++ [name]) with
    | none =>
      exact .missing (tree.absent_of_isPrefix (List.prefix_append ..) there)
        (tree.not_isBlocked_of_absent directory there names)
    | some entry =>
      cases entry with
      | directory => exact inductionHypothesis there ordinary
      | file content =>
        cases names with
        | nil =>
          rw [List.append_nil]
          exact .there there
        | cons name' names =>
          show files.Outcome _ ((files.step (place ++ [name]) name').bind _)
          rw [step_of_file there]
          refine .blocked ?_ ⟨_, content, List.prefix_append .., there⟩
          cases found : files.entry? (place ++ [name] ++ name' :: names) with
          | none => rfl
          | some entry =>
            rw [tree.directory_of_append (by simp) found] at there
            cases there

/-! ## Following a path -/

section Ordinary

variable (tree : files.IsTree) (ordinary : p.IsOrdinary) (takes : Takes p)

include tree ordinary takes

theorem IsTree.outcome_find (filled : p.isEmpty = false) :
    files.Outcome (files.destination p) (files.find p) := by
  have outcome := tree.outcome_foldlM_step (tree.start_directory p)
    (fun name member => ⟨ordinary.dotless name member, takes.short name member⟩)
  have follows : files.follow p p.names = p.names.foldlM files.step (files.start p) := by
    rw [follow, filled]
    rfl
  simp only [find, takes.usable, follows]
  -- The slash that a path ends in asks for a directory, but then there are no names to follow.
  generalize p.names.foldlM files.step (files.start p) = followed at outcome
  cases outcome with
  | @there entry found =>
    cases slashed : p.endsInSlash with
    | false => exact .there found
    | true =>
      have directory : files.entry? (files.start p ++ p.names) = some .directory := by
        rw [ordinary.unslashed slashed, List.append_nil]
        exact tree.start_directory p
      show files.Outcome _ ((files.requireDirectory _).bind fun _ => .ok _)
      rw [requireDirectory, directory]
      exact .there directory
  | blocked absent blocked => exact .blocked absent blocked
  | missing absent free => exact .missing absent free

theorem IsTree.find_of_there (filled : p.isEmpty = false)
    (there : files.entry? (files.destination p) = some entry) :
    files.find p = .ok (files.destination p) := by
  have outcome := tree.outcome_find ordinary takes filled
  generalize files.find p = found at outcome ⊢
  cases outcome with
  | there _ => rfl
  | blocked absent _ | missing absent _ =>
    rw [there] at absent
    cases absent

theorem IsTree.holds_eq (filled : p.isEmpty = false) :
    files.holds p = (files.entry? (files.destination p)).isSome := by
  have outcome := tree.outcome_find ordinary takes filled
  rw [holds]
  generalize files.find p = found at outcome ⊢
  cases outcome with
  | there found =>
    rw [found]
    rfl
  | blocked absent _ | missing absent _ =>
    rw [absent]
    rfl

theorem IsTree.holdsDirectory_iff (filled : p.isEmpty = false) :
    files.holdsDirectory p = true ↔ files.entry? (files.destination p) = some .directory := by
  have outcome := tree.outcome_find ordinary takes filled
  rw [holdsDirectory]
  generalize files.find p = found at outcome ⊢
  cases outcome with
  | there _ => simp
  | blocked absent _ | missing absent _ => simp [absent]

theorem IsTree.not_holdsDirectory (filled : p.isEmpty = false)
    (blocked : files.IsBlocked (files.destination p)) : files.holdsDirectory p = false := by
  cases there : files.holdsDirectory p with
  | false => rfl
  | true =>
    have directory := (tree.holdsDirectory_iff ordinary takes filled).mp there
    exact absurd blocked (tree.not_isBlocked directory)

end Ordinary

/-! ## Around the last name -/

/-- What an operation on the last name of a path finds around it: the directory that this is in, or a
    refusal that tells whether a file is in the way. -/
inductive Surroundings (files : Files) (place : Place) (name : String) :
    Except Cause (Place × Option String) → Prop where
  | inside (directory : files.entry? place = some .directory) :
      Surroundings files place name (.ok (place, some name))
  | blocked (blocked : files.IsBlocked place) : Surroundings files place name (.error .noDirectory)
  | missing (absent : files.entry? place = none) (free : ¬ files.IsBlocked place) :
      Surroundings files place name (.error .notThere)

section Named

variable (tree : files.IsTree) (ordinary : p.IsOrdinary) (takes : Takes p)
  (named : p.names = front ++ [name])

include tree ordinary takes named

theorem IsTree.surroundings : files.Surroundings (files.start p ++ front) name (files.around p) := by
  have member (name' : String) (inside : name' ∈ front) : name' ∈ p.names :=
    named ▸ List.mem_append_left _ inside
  have ordinary' (name' : String) (inside : name' ∈ front) :
      Path.isDots name' = false ∧ requireShort name' = .ok () :=
    ⟨ordinary.dotless _ (member _ inside), takes.short _ (member _ inside)⟩
  have outcome := tree.outcome_foldlM_step (tree.start_directory p) ordinary'
  have follows : files.follow p p.names.dropLast = front.foldlM files.step (files.start p) := by
    rw [follow, Path.isEmpty_of_names named, named, List.dropLast_concat]
    rfl
  have last : p.names.getLast? = some name := by simp [named]
  simp only [Files.around, takes.usable, follows, last]
  generalize front.foldlM files.step (files.start p) = followed at outcome
  cases outcome with
  | @there entry found =>
    show files.Surroundings _ _ ((files.requireDirectory _).bind fun _ => .ok _)
    rw [requireDirectory, found]
    cases entry with
    | directory => exact .inside found
    | file content => exact .blocked ⟨_, content, List.prefix_rfl, found⟩
  | blocked _ blocked => exact .blocked blocked
  | missing absent free => exact .missing absent free

theorem IsTree.around_of_directory
    (directory : files.entry? (files.start p ++ front) = some .directory) :
    files.around p = .ok (files.start p ++ front, some name) := by
  have surroundings := tree.surroundings ordinary takes named
  generalize files.around p = found at surroundings ⊢
  cases surroundings with
  | inside _ => rfl
  | blocked blocked => exact absurd blocked (tree.not_isBlocked directory)
  | missing absent _ =>
    rw [directory] at absent
    cases absent

/-- Writing to a path in a directory is refused only where there is a directory. -/
theorem IsTree.write_of_directory
    (directory : files.entry? (files.start p ++ front) = some .directory) (content : Bytes) :
    files.write p content =
      if files.entry? (files.destination p) = some .directory then .error .isDirectory
      else .ok (files.put (files.destination p) (.file content)) := by
  have last : name ∈ p.names := by simp [named]
  have around := tree.around_of_directory ordinary takes named directory
  rw [destination_of_names named]
  simp only [write, around, bind, Except.bind, ordinary.dotless _ last, takes.short _ last,
    ordinary.endsInSlash_eq_false named, Bool.or_false]
  obtain _ | ⟨_ | _⟩ := files.entry? (files.start p ++ front ++ [name]) <;> rfl

/-- A file is moved to a path in a directory where nothing is. -/
theorem IsTree.moveFile_of_absent {source : Path}
    (directory : files.entry? (files.start p ++ front) = some .directory)
    (absent : files.entry? (files.destination p) = none)
    (found : files.find source = .ok other) (file : files.entry? other = some (.file content)) :
    files.moveFile source p =
      .ok ((files.erase other).put (files.destination p) (.file content)) := by
  have last : name ∈ p.names := by simp [named]
  have around := tree.around_of_directory ordinary takes named directory
  rw [destination_of_names named] at absent ⊢
  simp only [moveFile, takes.usable, found, around, file, absent, bind, Except.bind,
    ordinary.dotless _ last, takes.short _ last, ordinary.endsInSlash_eq_false named]
  rfl

end Named

end Lifeline.Files
