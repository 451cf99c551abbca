import Lifeline.Files.Tree
import Mathlib.Data.List.Induction

/-! # Trees of directories

In a tree everything stands in a directory.  So the way to a place goes through directories as far as
anything is there (`IsTree.directory_of_append`), and it ends with a file, which is in the way of all
that would be inside it (`IsBlocked`), or with nothing at all.
-/

namespace Lifeline.Files

variable {files : Files} {place other : Place} {names : List String} {name : String} {entry : Entry}
  {content : Bytes}

/-! ## Entries -/

theorem lookup_cons_of_ne {key other : Place} (different : other ≠ key) (entry : Entry)
    (entries : List (Place × Entry)) :
    ((key, entry) :: entries).lookup other = entries.lookup other := by
  rw [List.lookup_cons, beq_false_of_ne different]

theorem lookup_filter_ne (entries : List (Place × Entry)) (place other : Place) :
    (entries.filter fun entry => entry.1 ≠ place).lookup other =
      if other = place then none else entries.lookup other := by
  induction entries with
  | nil => simp
  | cons entry entries inductionHypothesis =>
    obtain ⟨key, entry⟩ := entry
    by_cases removed : key = place
    · subst removed
      rw [List.filter_cons_of_neg (by simp), inductionHypothesis]
      by_cases same : other = key
      · rw [if_pos same, if_pos same]
      · rw [lookup_cons_of_ne same]
    · rw [List.filter_cons_of_pos (by simpa using removed)]
      by_cases same : other = key
      · subst same
        rw [List.lookup_cons_self, List.lookup_cons_self, if_neg removed]
      · rw [lookup_cons_of_ne same, lookup_cons_of_ne same, inductionHypothesis]

theorem entry?_of_ne_nil (files : Files) (filled : place ≠ []) :
    files.entry? place = files.entries.lookup place := by
  simp [ entry?, filled]

/-- The root cannot be taken away, and anything else is gone then. -/
theorem entry?_erase (files : Files) (filled : place ≠ []) (other : Place) :
    Files.entry? (files.erase place) other = if other = place then none else files.entry? other := by
  by_cases root : other = []
  · subst root
    rw [if_neg fun same => filled same.symm]
    rfl
  · simp only [entry?_of_ne_nil _ root, erase, lookup_filter_ne]

theorem entry?_put (files : Files) (filled : place ≠ []) (entry : Entry) (other : Place) :
    Files.entry? (files.put place entry) other =
      if other = place then some entry else files.entry? other := by
  by_cases same : other = place
  · subst same
    rw [if_pos rfl, entry?_of_ne_nil _ filled]
    simp [put]
  · have passed : Files.entry? (files.put place entry) other =
        Files.entry? (files.erase place) other := by
      by_cases root : other = []
      · subst root
        rfl
      · rw [entry?_of_ne_nil _ root, entry?_of_ne_nil _ root, put, lookup_cons_of_ne same]
    rw [passed, entry?_erase files filled, if_neg same, if_neg same]

/-! ## Trees -/

/-- Whether everything is in a directory, and the current directory is one. -/
structure IsTree (files : Files) : Prop where
  inside : ∀ place name entry, files.entry? (place ++ [name]) = some entry →
    files.entry? place = some .directory
  current : files.entry? files.current = some .directory

/-- Whether files are a tree can be told from their entries one by one. -/
theorem isTree_of_entries
    (inside : ∀ entry ∈ files.entries, files.entry? entry.1.dropLast = some .directory)
    (current : files.entry? files.current = some .directory) : files.IsTree := by
  refine ⟨fun place name entry there => ?_, current⟩
  rw [entry?_of_ne_nil files (by simp)] at there
  obtain ⟨before, later, entries, -⟩ := List.lookup_eq_some_iff.mp there
  simpa using inside (place ++ [name], entry) (by simp [entries])

/-- Whether there is a regular file at a place or on the way to it. -/
def IsBlocked (files : Files) (place : Place) : Prop :=
  ∃ around content, around <+: place ∧ files.entry? around = some (.file content)

theorem IsTree.directory_of_append (tree : files.IsTree) (filled : names ≠ [])
    (there : files.entry? (place ++ names) = some entry) :
    files.entry? place = some .directory := by
  induction names using List.reverseRecOn generalizing entry with
  | nil => exact absurd rfl filled
  | append_singleton names name inductionHypothesis =>
    rw [← List.append_assoc] at there
    have directory := tree.inside _ _ _ there
    by_cases nothing : names = []
    · simpa [nothing] using directory
    · exact inductionHypothesis nothing directory

theorem IsTree.directory_of_isPrefix (tree : files.IsTree)
    (directory : files.entry? place = some .directory) (before : other <+: place) :
    files.entry? other = some .directory := by
  obtain ⟨names, rfl⟩ := before
  by_cases nothing : names = []
  · simpa [nothing] using directory
  · exact tree.directory_of_append nothing directory

theorem IsTree.not_isBlocked (tree : files.IsTree)
    (directory : files.entry? place = some .directory) : ¬ files.IsBlocked place := by
  rintro ⟨around, content, before, file⟩
  rw [tree.directory_of_isPrefix directory before] at file
  cases file

theorem isBlocked_concat :
    files.IsBlocked (place ++ [name]) ↔
      files.IsBlocked place ∨ ∃ content, files.entry? (place ++ [name]) = some (.file content) := by
  simp only [IsBlocked, List.prefix_concat_iff]
  constructor
  · rintro ⟨around, content, rfl | before, file⟩
    · exact .inr ⟨content, file⟩
    · exact .inl ⟨around, content, before, file⟩
  · rintro (⟨around, content, before, file⟩ | ⟨content, file⟩)
    · exact ⟨around, content, .inr before, file⟩
    · exact ⟨_, content, .inl rfl, file⟩

theorem IsTree.absent_of_isPrefix (tree : files.IsTree) (before : place <+: other)
    (absent : files.entry? place = none) : files.entry? other = none := by
  obtain ⟨names, rfl⟩ := before
  by_cases nothing : names = []
  · simpa [nothing] using absent
  · cases there : files.entry? (place ++ names) with
    | none => rfl
    | some entry =>
      rw [tree.directory_of_append nothing there] at absent
      cases absent

/-- No file is in the way where the directories end with nothing. -/
theorem IsTree.not_isBlocked_of_absent (tree : files.IsTree)
    (directory : files.entry? place = some .directory)
    (absent : files.entry? (place ++ [name]) = none) (names : List String) :
    ¬ files.IsBlocked (place ++ [name] ++ names) := by
  rintro ⟨around, content, before, file⟩
  -- What comes before the place that is missing is a directory, and what comes behind it is missing.
  obtain above | below :=
    List.prefix_or_prefix_of_prefix before (List.prefix_append (place ++ [name]) names)
  · obtain rfl | above := List.prefix_concat_iff.mp above
    · rw [absent] at file
      cases file
    · rw [tree.directory_of_isPrefix directory above] at file
      cases file
  · rw [tree.absent_of_isPrefix below absent] at file
    cases file

/-! ## Files in a tree -/

theorem entry?_put_of_directory (filled : place ≠ []) (free : files.entry? place ≠ some .directory)
    (there : files.entry? other = some .directory) (content : Bytes) :
    Files.entry? (files.put place (.file content)) other = some .directory := by
  rw [entry?_put files filled, if_neg, there]
  rintro rfl
  exact free there

theorem entry?_erase_of_directory (filled : place ≠ [])
    (file : files.entry? place = some (.file content))
    (there : files.entry? other = some .directory) :
    Files.entry? (files.erase place) other = some .directory := by
  rw [entry?_erase files filled, if_neg, there]
  rintro rfl
  rw [file] at there
  cases there

theorem IsTree.put (tree : files.IsTree) (directory : files.entry? place = some .directory)
    (free : files.entry? (place ++ [name]) ≠ some .directory) (content : Bytes) :
    (files.put (place ++ [name]) (.file content)).IsTree := by
  refine ⟨fun other name' entry there => ?_,
    entry?_put_of_directory (by simp) free tree.current content⟩
  rw [entry?_put files (by simp)] at there
  by_cases same : other ++ [name'] = place ++ [name]
  · obtain ⟨rfl, -⟩ := List.append_inj' same rfl
    exact entry?_put_of_directory (by simp) free directory content
  · rw [if_neg same] at there
    exact entry?_put_of_directory (by simp) free (tree.inside _ _ _ there) content

theorem IsTree.erase (tree : files.IsTree) (filled : place ≠ [])
    (file : files.entry? place = some (.file content)) : (files.erase place).IsTree := by
  refine ⟨fun other name' entry there => ?_, entry?_erase_of_directory filled file tree.current⟩
  rw [entry?_erase files filled] at there
  by_cases same : other ++ [name'] = place
  · rw [if_pos same] at there
    cases there
  · rw [if_neg same] at there
    exact entry?_erase_of_directory filled file (tree.inside _ _ _ there)

end Lifeline.Files
