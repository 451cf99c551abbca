import Lifeline.Proofs.Files.Following

/-! # Where paths lead

Each name of a path leads from one place to another one, whatever is there (`toward`), so all trees agree
where a path leads (`landing`) and differ only in whether it can be followed.  An operation that works
acts at the landing of its path and nowhere else.

A path that could not be followed to something that is there has a step back from a place where nothing is
(`Backtracks`); it can be followed once that place has been made (`IsTree.backtracks_of_find`).
-/

namespace Lifeline.Files

variable {files after later : Files} {p : Path} {place next target : Place} {names : List String}
  {name : String} {entry : Entry} {content : Bytes}

/-! ## Landings -/

/-- Where a name leads from a place. -/
def toward (place : Place) (name : String) : Place :=
  if name = "." then place else if name = ".." then place.dropLast else place ++ [name]

/-- Where a path leads. -/
def landing (files : Files) (p : Path) : Place := p.names.foldl toward (files.start p)

theorem landing_congr (same : after.current = files.current) (p : Path) :
    after.landing p = files.landing p := by
  rw [landing, landing, start_congr same]

theorem toward_of_dotless (dotless : Path.isDots name = false) (place : Place) :
    toward place name = place ++ [name] := by
  simp only [Path.isDots, Bool.or_eq_false_iff, decide_eq_false_iff_not] at dotless
  rw [toward, if_neg dotless.1, if_neg dotless.2]

/-! ## Following -/

theorem exists_of_bind_eq_ok {α β : Type} {x : Except Cause α} {f : α → Except Cause β} {b : β}
    (bound : x >>= f = .ok b) : ∃ a, x = .ok a ∧ f a = .ok b := by
  cases x with
  | error cause => cases bound
  | ok a => exact ⟨a, rfl, bound⟩

theorem requireDirectory_eq_ok_iff :
    files.requireDirectory place = .ok () ↔ files.entry? place = some .directory := by
  unfold requireDirectory
  obtain _ | _ | _ := files.entry? place <;> simp

theorem step_of_dots (directory : files.entry? place = some .directory)
    (dots : Path.isDots name = true) : files.step place name = .ok (toward place name) := by
  simp only [Path.isDots, Bool.or_eq_true, decide_eq_true_eq] at dots
  obtain rfl | rfl := dots <;> simp only [step, requireDirectory, directory] <;> rfl

theorem step_eq_ok (followed : files.step place name = .ok next) :
    files.entry? place = some .directory ∧ next = toward place name ∧
      (Path.isDots name = false → requireShort name = .ok ()) := by
  obtain ⟨⟨⟩, required, remains⟩ := exists_of_bind_eq_ok followed
  have directory := requireDirectory_eq_ok_iff.mp required
  cases dots : Path.isDots name with
  | true =>
    rw [step_of_dots directory dots] at followed
    exact ⟨directory, (Except.ok.inj followed).symm, nofun⟩
  | false =>
    cases short : requireShort name with
    | error cause =>
      simp only [Path.isDots, Bool.or_eq_false_iff, decide_eq_false_iff_not] at dots
      simp only [if_neg dots.1, if_neg dots.2, short] at remains
      cases remains
    | ok =>
      rw [step_of_directory directory dots short] at followed
      split at followed
      · rw [toward_of_dotless dots]
        exact ⟨directory, (Except.ok.inj followed).symm, fun _ => rfl⟩
      · cases followed

/-- A path that can be followed leads to its landing. -/
theorem eq_of_foldlM_step (followed : names.foldlM files.step place = .ok target) :
    target = names.foldl toward place := by
  induction names generalizing place with
  | nil => exact (Except.ok.inj followed).symm
  | cons name names inductionHypothesis =>
    rw [List.foldlM_cons] at followed
    obtain ⟨next, first, rest⟩ := exists_of_bind_eq_ok followed
    obtain ⟨-, rfl, -⟩ := step_eq_ok first
    exact inductionHypothesis rest

theorem follow_eq_ok (followed : files.follow p names = .ok place) :
    p.isEmpty = false ∧ names.foldlM files.step (files.start p) = .ok place := by
  cases blank : p.isEmpty with
  | true =>
    rw [follow, if_pos blank] at followed
    cases followed
  | false =>
    rw [follow, blank] at followed
    exact ⟨rfl, followed⟩

theorem find_eq_ok (found : files.find p = .ok place) :
    requireUsable p = .ok () ∧ p.isEmpty = false ∧
      p.names.foldlM files.step (files.start p) = .ok place ∧
      (p.endsInSlash = true → files.entry? place = some .directory) := by
  obtain ⟨⟨⟩, usable, found⟩ := exists_of_bind_eq_ok found
  obtain ⟨place', followed, found⟩ := exists_of_bind_eq_ok found
  obtain ⟨filled, followed⟩ := follow_eq_ok followed
  cases slashed : p.endsInSlash with
  | false =>
    rw [slashed] at found
    obtain rfl : place' = place := Except.ok.inj found
    exact ⟨usable, filled, followed, nofun⟩
  | true =>
    rw [slashed] at found
    obtain ⟨⟨⟩, required, found⟩ := exists_of_bind_eq_ok found
    obtain rfl : place' = place := Except.ok.inj found
    exact ⟨usable, filled, followed, fun _ => requireDirectory_eq_ok_iff.mp required⟩

theorem find_of_foldlM_step (usable : requireUsable p = .ok ()) (filled : p.isEmpty = false)
    (followed : p.names.foldlM files.step (files.start p) = .ok place)
    (unslashed : p.endsInSlash = false) : files.find p = .ok place := by
  have follows : files.follow p p.names = .ok place := by
    rw [follow, filled]
    exact followed
  simp only [find, usable, follows, unslashed]
  rfl

theorem landing_of_find (found : files.find p = .ok place) : place = files.landing p :=
  eq_of_foldlM_step (find_eq_ok found).2.2.1

/-! ## Where operations act -/

/-- Whether an operation can act where a path leads, for that is in a directory and its name can be
    given to a file. -/
structure Lands (files : Files) (p : Path) : Prop where
  inside : files.landing p ≠ []
  found : ∀ entry, files.entry? (files.landing p) = some entry →
    files.find p = .ok (files.landing p)

theorem around_eq_ok (found : files.around p = .ok (place, some name)) :
    requireUsable p = .ok () ∧ p.isEmpty = false ∧ files.entry? place = some .directory ∧
      ∃ front, p.names = front ++ [name] ∧ front.foldlM files.step (files.start p) = .ok place := by
  obtain ⟨⟨⟩, usable, found⟩ := exists_of_bind_eq_ok found
  obtain ⟨place', followed, found⟩ := exists_of_bind_eq_ok found
  obtain ⟨⟨⟩, required, found⟩ := exists_of_bind_eq_ok found
  obtain ⟨rfl, last⟩ : place' = place ∧ p.names.getLast? = some name := by
    simpa using Except.ok.inj found
  obtain ⟨filled, followed⟩ := follow_eq_ok followed
  refine ⟨usable, filled, requireDirectory_eq_ok_iff.mp required, _, ?_, followed⟩
  exact (List.dropLast_append_getLast? name last).symm

theorem landing_of_around (found : files.around p = .ok (place, some name))
    (dotless : Path.isDots name = false) : files.landing p = place ++ [name] := by
  obtain ⟨-, -, -, front, named, followed⟩ := around_eq_ok found
  rw [landing, named, List.foldl_append, ← eq_of_foldlM_step followed]
  exact toward_of_dotless dotless place

theorem lands_of_around (found : files.around p = .ok (place, some name))
    (dotless : Path.isDots name = false) (short : requireShort name = .ok ())
    (unslashed : p.endsInSlash = false) : files.Lands p := by
  have there := landing_of_around found dotless
  obtain ⟨usable, filled, directory, front, named, followed⟩ := around_eq_ok found
  refine ⟨by simp [there], fun entry present => ?_⟩
  rw [there] at present ⊢
  refine find_of_foldlM_step usable filled ?_ unslashed
  rw [named, List.foldlM_append, followed]
  show (files.step place name >>= pure) = _
  rw [step_of_directory directory dotless short, present]
  rfl

theorem write_eq_ok (written : files.write p content = .ok after) :
    files.Lands p ∧ files.entry? (files.landing p) ≠ some .directory ∧
      after = files.put (files.landing p) (.file content) := by
  obtain ⟨⟨place, _ | name⟩, found, written⟩ := exists_of_bind_eq_ok written
  · cases written
  · dsimp only at written
    split at written
    · cases written
    · rename_i plain
      obtain ⟨dotless, unslashed⟩ := Bool.or_eq_false_iff.mp (eq_false_of_ne_true plain)
      obtain ⟨⟨⟩, short, written⟩ := exists_of_bind_eq_ok written
      rw [landing_of_around found dotless]
      refine ⟨lands_of_around found dotless short unslashed, ?_⟩
      split at written
      · cases written
      · rename_i free
        exact ⟨free, (Except.ok.inj written).symm⟩

theorem makeDirectory_eq_ok (made : files.makeDirectory p = .ok after) :
    files.landing p ≠ [] ∧ files.entry? (files.landing p) = none ∧
      after = files.put (files.landing p) .directory := by
  obtain ⟨⟨place, _ | name⟩, found, made⟩ := exists_of_bind_eq_ok made
  · cases made
  · dsimp only at made
    split at made
    · cases made
    · rename_i plain
      obtain ⟨⟨⟩, short, made⟩ := exists_of_bind_eq_ok made
      rw [landing_of_around found (eq_false_of_ne_true plain)]
      split at made
      · cases made
      · rename_i absent
        exact ⟨by simp, absent, (Except.ok.inj made).symm⟩

/-- What is at the landing of the target is replaced, unless it is a directory. -/
theorem moveFile_eq_ok {source target : Path} (moved : files.moveFile source target = .ok after) :
    ∃ content, files.entry? (files.landing source) = some (.file content) ∧ files.Lands target ∧
      after = (files.erase (files.landing source)).put (files.landing target) (.file content) := by
  obtain ⟨⟨⟩, -, moved⟩ := exists_of_bind_eq_ok moved
  obtain ⟨start, begins, moved⟩ := exists_of_bind_eq_ok moved
  obtain ⟨⟨place, _ | name⟩, found, moved⟩ := exists_of_bind_eq_ok moved
  · cases moved
  obtain rfl := landing_of_find begins
  cases file : files.entry? (files.landing source) with
  | none =>
    rw [file] at moved
    cases moved
  | some entry =>
    cases entry with
    | directory =>
      rw [file] at moved
      cases moved
    | file content =>
      rw [file] at moved
      dsimp only at moved
      split at moved
      · cases moved
      · rename_i plain
        split at moved
        · cases moved
        · rename_i unslashed
          obtain ⟨⟨⟩, short, moved⟩ := exists_of_bind_eq_ok moved
          have dotless : Path.isDots name = false := eq_false_of_ne_true plain
          rw [landing_of_around found dotless]
          refine ⟨content, rfl, ?_, ?_⟩
          · exact lands_of_around found dotless short (eq_false_of_ne_true unslashed)
          · split at moved
            · cases moved
            · exact (Except.ok.inj moved).symm

/-! ## What directories leave as it is -/

/-- Whether all that was there still is, and the current directory is the same. -/
structure Grows (files after : Files) : Prop where
  entries : ∀ place entry, files.entry? place = some entry → after.entry? place = some entry
  current : after.current = files.current

theorem Grows.refl (files : Files) : Grows files files := ⟨fun _ _ there => there, rfl⟩

theorem Grows.trans (first : Grows files after) (second : Grows after later) : Grows files later :=
  ⟨fun place entry there => second.entries place entry (first.entries place entry there),
    second.current.trans first.current⟩

theorem grows_of_makeDirectory (made : files.makeDirectory p = .ok after) : Grows files after := by
  obtain ⟨inside, absent, rfl⟩ := makeDirectory_eq_ok made
  refine ⟨fun place entry there => ?_, rfl⟩
  rw [entry?_put files inside, if_neg, there]
  rintro rfl
  rw [absent] at there
  cases there

theorem grows_makeDirectories (files : Files) (ps : List Path) :
    Grows files (files.makeDirectories ps).2 := by
  induction ps generalizing files with
  | nil => exact .refl files
  | cons p around inductionHypothesis =>
    rw [makeDirectories]
    split
    · exact .refl files
    · split
      · rename_i made
        exact grows_of_makeDirectory made
      · split
        · -- the directories around the path are made before it is tried again
          have before := inductionHypothesis files
          split
          · rename_i made
            rwa [made] at before
          · rename_i between made
            rw [made] at before
            split
            · rename_i made'
              exact before.trans (grows_of_makeDirectory made')
            · split <;> exact before
        · split <;> exact .refl files

theorem grows_makePath (files : Files) (p : Path) : Grows files (files.makePath p).2 :=
  grows_makeDirectories files p.ancestors

/-! ## Steps back -/

/-- Whether a path has a step back from a place where nothing is. -/
def Backtracks (files : Files) (p : Path) : Prop :=
  ∃ front back, p.names = front ++ ".." :: back ∧
    files.entry? (front.foldl toward (files.start p)) = none

/-- The way from a place where nothing is to one where something is goes back at some point: a name of
    its own only leads further down. -/
theorem IsTree.exists_return (tree : files.IsTree) (absent : files.entry? place = none)
    (there : files.entry? (names.foldl toward place) = some entry) :
    ∃ front back, names = front ++ ".." :: back ∧ files.entry? (front.foldl toward place) = none := by
  induction names generalizing place with
  | nil =>
    rw [List.foldl_nil, absent] at there
    cases there
  | cons name names inductionHypothesis =>
    by_cases up : name = ".."
    · exact ⟨[], names, by rw [up]; rfl, absent⟩
    · have absent' : files.entry? (toward place name) = none := by
        rw [toward, if_neg up]
        split
        · exact absent
        · exact tree.absent_of_isPrefix (List.prefix_append ..) absent
      obtain ⟨front, back, rfl, absent''⟩ := inductionHypothesis absent' there
      exact ⟨name :: front, back, rfl, absent''⟩

variable (solid : ∀ place content, files.entry? place = some (.file content) →
  ∃ content', later.entry? place = some (.file content'))

include solid

/-- A step that can be made later and could not be made before misses something. -/
theorem step_of_step (followed : later.step place name = .ok next) :
    files.step place name = .ok next ∨ files.entry? place = none ∨ files.entry? next = none := by
  obtain ⟨directory, rfl, short⟩ := step_eq_ok followed
  cases there : files.entry? place with
  | none => exact .inr (.inl rfl)
  | some entry =>
    cases entry with
    | file content =>
      obtain ⟨content', file⟩ := solid place content there
      rw [directory] at file
      cases file
    | directory =>
      cases dots : Path.isDots name with
      | true => exact .inl (step_of_dots there dots)
      | false =>
        rw [step_of_directory there dots (short dots), toward_of_dotless dots]
        cases files.entry? (place ++ [name]) with
        | none => exact .inr (.inr rfl)
        | some entry => exact .inl rfl

theorem foldlM_step_of_foldlM_step (followed : names.foldlM later.step place = .ok target) :
    names.foldlM files.step place = .ok target ∨
      ∃ front back, names = front ++ back ∧ files.entry? (front.foldl toward place) = none := by
  induction names generalizing place with
  | nil => exact .inl followed
  | cons name names inductionHypothesis =>
    rw [List.foldlM_cons] at followed ⊢
    obtain ⟨next, first, rest⟩ := exists_of_bind_eq_ok followed
    obtain ⟨-, rfl, -⟩ := step_eq_ok first
    obtain first' | absent | absent := step_of_step solid first
    · rw [first']
      obtain rest' | ⟨front, back, rfl, absent⟩ := inductionHypothesis rest
      · exact .inl rest'
      · exact .inr ⟨name :: front, back, rfl, absent⟩
    · exact .inr ⟨[], name :: names, rfl, absent⟩
    · exact .inr ⟨[name], names, rfl, absent⟩

/-- A path that leads to a file later, and did not lead there although a file was there, has a step back
    from a place where nothing was. -/
theorem IsTree.backtracks_of_find (tree : files.IsTree) (same : later.current = files.current)
    (file : files.entry? (files.landing p) = some (.file content))
    (found : later.find p = .ok (files.landing p)) (lost : files.holds p = false) :
    files.Backtracks p := by
  obtain ⟨usable, filled, followed, slashed⟩ := find_eq_ok found
  have unslashed : p.endsInSlash = false := by
    refine eq_false_of_ne_true fun ends => ?_
    obtain ⟨content', file'⟩ := solid _ _ file
    rw [slashed ends] at file'
    cases file'
  rw [start_congr same] at followed
  obtain followed' | ⟨front, back, named, absent⟩ := foldlM_step_of_foldlM_step solid followed
  · rw [holds, find_of_foldlM_step usable filled followed' unslashed] at lost
    cases lost
  · rw [landing, named, List.foldl_append] at file
    obtain ⟨front', back', rfl, absent'⟩ := tree.exists_return absent file
    refine ⟨front ++ front', back', by rw [named, List.append_assoc], ?_⟩
    rwa [List.foldl_append]

end Lifeline.Files
