import Lifeline.Proofs.Files.Following

/-! # Making directories in a tree

A directory is made together with those that it is inside.  In a tree that works unless a file is in the
way, and makes just those that are missing (`spread_makePath`).  Nothing has been made when it is
refused, for all directories before the file are there already.
-/

namespace Lifeline.Files

variable {files after : Files} {p around : Path} {place other : Place} {front : List String}
  {name : String} {entry : Entry}

/-! ## One directory -/

/-- What making a directory inside another one comes to: one that is new, or a refusal. -/
inductive Making (files : Files) (place : Place) (name : String) : Except Cause Files → Prop where
  | new (directory : files.entry? place = some .directory)
      (absent : files.entry? (place ++ [name]) = none) :
      Making files place name (.ok (files.put (place ++ [name]) .directory))
  | taken {entry : Entry} (found : files.entry? (place ++ [name]) = some entry) :
      Making files place name (.error .alreadyThere)
  | blocked (blocked : files.IsBlocked place) : Making files place name (.error .noDirectory)
  | missing (absent : files.entry? place = none) (free : ¬ files.IsBlocked place) :
      Making files place name (.error .notThere)

section Named

variable (tree : files.IsTree) (ordinary : p.IsOrdinary) (takes : Takes p)
  (named : p.names = front ++ [name])

include tree ordinary takes named

theorem IsTree.making : files.Making (files.start p ++ front) name (files.makeDirectory p) := by
  have last : name ∈ p.names := by simp [named]
  have surroundings := tree.surroundings ordinary takes named
  rw [makeDirectory]
  generalize files.around p = around at surroundings ⊢
  cases surroundings with
  | inside directory =>
    simp only [bind, Except.bind, ordinary.dotless _ last, takes.short _ last]
    cases found : files.entry? (files.start p ++ front ++ [name]) with
    | none => exact .new directory found
    | some entry => exact .taken found
  | blocked blocked => exact .blocked blocked
  | missing absent free => exact .missing absent free

theorem IsTree.makeDirectory_of_absent
    (directory : files.entry? (files.start p ++ front) = some .directory)
    (absent : files.entry? (files.start p ++ front ++ [name]) = none) :
    files.makeDirectory p = .ok (files.put (files.start p ++ front ++ [name]) .directory) := by
  have making := tree.making ordinary takes named
  generalize files.makeDirectory p = made at making ⊢
  cases making with
  | new _ _ => rfl
  | taken found =>
    rw [absent] at found
    cases found
  | blocked blocked => exact absurd blocked (tree.not_isBlocked directory)
  | missing absent _ =>
    rw [directory] at absent
    cases absent

end Named

/-! ## Those that are missing -/

/-- Whether nothing has changed but that a place and all that it is inside, none of them a file
    before, are directories. -/
structure HasMade (files after : Files) (place : Place) : Prop where
  entries : ∀ other, after.entry? other =
    if other <+: place then some .directory else files.entry? other
  current : after.current = files.current
  free : ¬ files.IsBlocked place

theorem IsTree.hasMade_self (tree : files.IsTree)
    (directory : files.entry? place = some .directory) : HasMade files files place := by
  refine ⟨?_, rfl, tree.not_isBlocked directory⟩
  intro other
  by_cases before : other <+: place
  · rw [if_pos before, tree.directory_of_isPrefix directory before]
  · rw [if_neg before]

theorem HasMade.put (made : HasMade files after place)
    (absent : files.entry? (place ++ [name]) = none) :
    HasMade files (after.put (place ++ [name]) .directory) (place ++ [name]) := by
  refine ⟨?_, made.current, ?_⟩
  · intro other
    simp only [entry?_put after (List.concat_ne_nil name place), made.entries, List.prefix_concat_iff]
    by_cases same : other = place ++ [name] <;> simp [same]
  · rw [isBlocked_concat]
    rintro (blocked | ⟨content, file⟩)
    · exact made.free blocked
    · rw [absent] at file
      cases file

theorem HasMade.directory (made : HasMade files after place) :
    after.entry? place = some .directory := by
  rw [made.entries, if_pos List.prefix_rfl]

theorem HasMade.entry?_concat (made : HasMade files after place) (name : String) :
    after.entry? (place ++ [name]) = files.entry? (place ++ [name]) := by
  rw [made.entries, if_neg]
  intro longer
  have length := longer.length_le
  simp only [List.length_append, List.length_singleton] at length
  omega

theorem HasMade.isTree (made : HasMade files after place) (tree : files.IsTree) : after.IsTree := by
  constructor
  · intro other name entry there
    rw [made.entries] at there ⊢
    by_cases before : other <+: place
    · rw [if_pos before]
    · have before' : ¬ other ++ [name] <+: place :=
        fun longer => before ((List.prefix_append ..).trans longer)
      rw [if_neg before'] at there
      rw [if_neg before, tree.inside _ _ _ there]
  · rw [made.current, made.entries, tree.current, ite_self]

/-- What making a place a directory comes to: a refusal, for a file is in the way, or the directories
    that are missing, and no change where the place is a directory already. -/
inductive Spread (files : Files) (place : Place) : Except Cause Unit × Files → Prop where
  | refused {cause : Cause} (blocked : files.IsBlocked place) :
      Spread files place (.error cause, files)
  | made {after : Files} (hasMade : HasMade files after place)
      (same : files.entry? place = some .directory → after = files) :
      Spread files place (.ok (), after)

theorem IsTree.spread_self (tree : files.IsTree)
    (directory : files.entry? place = some .directory) : files.Spread place (.ok (), files) :=
  .made (tree.hasMade_self directory) fun _ => rfl

/-- The root and the current directory need not be made. -/
theorem IsTree.makeDirectories_of_nameless (tree : files.IsTree) (ordinary : p.IsOrdinary)
    (takes : Takes p) (nameless : p.names = []) :
    files.makeDirectories [p] = (.ok (), files) := by
  rw [makeDirectories]
  cases blank : p.isEmpty with
  | true => rfl
  | false =>
    have directory := tree.start_directory p
    have there : files.holdsDirectory p = true := by
      rw [tree.holdsDirectory_iff ordinary takes blank, destination_of_nameless nameless]
      exact directory
    have follows : files.follow p p.names.dropLast = .ok (files.start p) := by
      rw [follow, blank, nameless]
      rfl
    have last : p.names.getLast? = none := by rw [nameless, List.getLast?_nil]
    have around : files.around p = .ok (files.start p, none) := by
      simp only [Files.around, takes.usable, follows, requireDirectory, directory, last, bind,
        Except.bind, pure, Except.pure]
    have refused : files.makeDirectory p = .error .alreadyThere := by
      rw [makeDirectory, around]
      rfl
    simp only [refused, there]
    rfl

/-- What is missing inside has been made before, so that the last directory is now new. -/
theorem IsTree.makeDirectory_of_hasMade (tree : files.IsTree) (ordinary : p.IsOrdinary)
    (takes : Takes p) (named : p.names = front ++ [name])
    (absent : files.entry? (files.start p ++ front) = none)
    (made : HasMade files after (files.start p ++ front)) :
    ∃ after', after.makeDirectory p = .ok after' ∧ HasMade files after' (files.destination p) := by
  have start : after.start p = files.start p := start_congr made.current p
  have absent' : files.entry? (files.start p ++ front ++ [name]) = none :=
    tree.absent_of_isPrefix (List.prefix_append ..) absent
  have makes := (made.isTree tree).makeDirectory_of_absent ordinary takes named
  rw [start, made.directory, made.entry?_concat] at makes
  refine ⟨_, makes rfl absent', ?_⟩
  rw [destination_of_names named]
  exact made.put absent'

/-- The induction is on the names, from the last one on.  What is around that one is made first if it
    is missing, and is not looked at otherwise. -/
theorem IsTree.spread_makeDirectories (tree : files.IsTree) (ordinary : p.IsOrdinary)
    (takes : Takes p) {limit : Nat} (enough : p.names.length ≤ limit) :
    files.Spread (files.destination p) (files.makeDirectories (p.ancestorsFrom limit)) := by
  generalize named : p.names = names at enough
  induction names using List.reverseRecOn generalizing p limit with
  | nil =>
    rw [Path.ancestorsFrom_of_nameless named, destination_of_nameless named,
      tree.makeDirectories_of_nameless ordinary takes named]
    exact tree.spread_self (tree.start_directory p)
  | append_singleton front name inductionHypothesis =>
    rw [List.length_append, List.length_singleton] at enough
    obtain ⟨limit, rfl⟩ := Nat.exists_eq_add_of_lt (Nat.lt_of_succ_le enough)
    obtain ⟨around, parent, before⟩ := ordinary.exists_parent? named
    have filled := Path.isEmpty_of_names named
    have place : files.destination p = files.start p ++ front ++ [name] := destination_of_names named
    have making := tree.making ordinary takes named
    rw [Path.ancestorsFrom_of_parent? parent, makeDirectories]
    simp only [filled]
    generalize files.makeDirectory p = made at making ⊢
    cases making with
    | new directory absent =>
      rw [place]
      exact .made ((tree.hasMade_self directory).put absent) (by rw [absent]; exact nofun)
    | @taken entry found =>
      rw [← place] at found
      cases entry with
      | directory =>
        simp only [(tree.holdsDirectory_iff ordinary takes filled).mpr found]
        exact tree.spread_self found
      | file content =>
        have blocked : files.IsBlocked (files.destination p) := ⟨_, content, List.prefix_rfl, found⟩
        simp only [tree.not_holdsDirectory ordinary takes filled blocked]
        exact .refused blocked
    | blocked blocked =>
      -- It was refused for another reason than a missing directory, so no other one is tried.
      have blocked' : files.IsBlocked (files.destination p) := by
        rw [place]
        exact isBlocked_concat.mpr (.inl blocked)
      simp only [tree.not_holdsDirectory ordinary takes filled blocked']
      exact .refused blocked'
    | missing absent free =>
      have spread := inductionHypothesis before.ordinary (takes.of_isAround named before) before.names
        (Nat.le_add_right front.length limit)
      rw [destination_of_isAround before] at spread
      generalize files.makeDirectories (around.ancestorsFrom _) = made at spread ⊢
      cases spread with
      | refused blocked => exact absurd blocked free
      | made hasMade _ =>
        -- The path itself is tried anew, in the tree that has what was missing around it.
        obtain ⟨after', made, hasMade'⟩ :=
          tree.makeDirectory_of_hasMade ordinary takes named absent hasMade
        simp only [made]
        refine .made hasMade' ?_
        rw [place, tree.absent_of_isPrefix (List.prefix_append ..) absent]
        exact nofun

theorem IsTree.spread_makePath (tree : files.IsTree) (ordinary : p.IsOrdinary) (takes : Takes p) :
    files.Spread (files.destination p) (files.makePath p) :=
  tree.spread_makeDirectories ordinary takes (List.length_filter_le ..)

end Lifeline.Files
