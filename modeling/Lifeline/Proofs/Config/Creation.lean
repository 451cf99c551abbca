import Lifeline.Proofs.Config.Template
import Lifeline.Proofs.Files.Directories
import Lifeline.Proofs.Text.Utf8

/-! # A configuration file is made whole or not at all

Making a configuration file is a look whether one is there and three changes of the tree, of which
each may be refused.  What can refuse it is known before the first change (`init_all_or_nothing`): if
something is there, a file is in the way or the temporary file is a directory, nothing changes at
all; and otherwise all three go through and leave no more behind than the file and the directories
around it.
-/

namespace Lifeline.Config

open Files (Takes IsTree HasMade)

variable {files : Files} {path : Path} {front : List String} {name : String}
  {content : Bytes}

/-! ## The temporary file -/

theorem temporary_of_names (ordinary : path.IsOrdinary) (named : path.names = front ++ [name]) :
    (temporary path).IsOrdinary ∧
      (temporary path).names = front ++ [Path.withEnding "toml.tmp" name] ∧
      (temporary path).isAbsolute = path.isAbsolute :=
  ordinary.withExtension named (by decide)

theorem start_temporary (files : Files) (ordinary : path.IsOrdinary)
    (named : path.names = front ++ [name]) : files.start (temporary path) = files.start path := by
  rw [Files.start, Files.start, (temporary_of_names ordinary named).2.2]

/-- The temporary file is beside the path. -/
theorem destination_temporary (files : Files) (ordinary : path.IsOrdinary)
    (named : path.names = front ++ [name]) :
    files.destination (temporary path) =
      files.start path ++ front ++ [Path.withEnding "toml.tmp" name] := by
  rw [Files.destination_of_names (temporary_of_names ordinary named).2.1,
    start_temporary files ordinary named]

theorem destination_ne_temporary (files : Files) (ordinary : path.IsOrdinary)
    (named : path.names = front ++ [name]) :
    files.destination path ≠ files.destination (temporary path) := by
  rw [Files.destination_of_names named, destination_temporary files ordinary named]
  intro same
  have names := List.singleton_inj.mp (List.append_cancel_left same)
  exact Path.withEnding_ne (by decide) name names.symm

/-! ## Storing a text -/

/-- Whether nothing has changed but that a file is at one place and nothing at another one. -/
structure HasStored (files after : Files) (content : Bytes) (target beside : Place) : Prop where
  entries : ∀ place, after.entry? place =
    if place = target then some (.file content)
    else if place = beside then none
    else files.entry? place
  current : after.current = files.current

theorem HasStored.of_put {after : Files} {target beside : Place} (filled : beside ≠ [])
    (stored : HasStored (files.put beside (.file content)) after content target beside) :
    HasStored files after content target beside := by
  refine ⟨fun place => ?_, stored.current⟩
  rw [stored.entries, Files.entry?_put files filled]
  by_cases same : place = beside <;> simp [same]

theorem store_of_ok {written after : Files} {text : String}
    (writes : files.write (temporary path) (Text.encode text) = .ok written)
    (moves : written.moveFile (temporary path) path = .ok after) :
    store files path text = (.ok (), after) := by
  rw [store, writes]
  simp only [moves]

section Store

variable (tree : files.IsTree) (ordinary : path.IsOrdinary) (takes : Takes path)
  (takes' : Takes (temporary path)) (named : path.names = front ++ [name])
  (directory : files.entry? (files.start path ++ front) = some .directory)
  (absent : files.entry? (files.destination path) = none)

include tree ordinary takes takes' named directory absent

/-- The temporary file takes the place of the path. -/
theorem exists_moveFile
    (file : files.entry? (files.destination (temporary path)) = some (.file content)) :
    ∃ after, files.moveFile (temporary path) path = .ok after ∧ after.IsTree ∧
      HasStored files after content (files.destination path)
        (files.destination (temporary path)) := by
  obtain ⟨ordinary', named', -⟩ := temporary_of_names ordinary named
  have place : files.destination path = files.start path ++ front ++ [name] :=
    Files.destination_of_names named
  have filled : files.destination path ≠ [] := by simp [place]
  have filled' : files.destination (temporary path) ≠ [] := by
    simp [destination_temporary files ordinary named]
  have found := tree.find_of_there ordinary' takes' (Path.isEmpty_of_names named') file
  have moved := tree.moveFile_of_absent ordinary takes named directory absent found file
  have kept := Files.entry?_erase_of_directory filled' file directory
  refine ⟨_, moved, ?_, ?_, rfl⟩
  · have absent' : Files.entry? (files.erase (files.destination (temporary path)))
        (files.destination path) = none := by
      rw [Files.entry?_erase files filled', absent, ite_self]
    rw [place] at absent' ⊢
    exact (tree.erase filled' file).put kept (by rw [absent']; exact nofun) content
  · intro other
    rw [Files.entry?_put _ filled, Files.entry?_erase files filled']

/-- Storing a text in a directory is refused, without a change, only where the temporary file would be
    a directory. -/
theorem store_cases (text : String) :
    let beside := files.destination (temporary path)
    (files.entry? beside = some .directory ∧
        ∃ error, store files path text = (.error error, files)) ∨
      (files.entry? beside ≠ some .directory ∧
        ∃ after, store files path text = (.ok (), after) ∧ after.IsTree ∧
          HasStored files after (Text.encode text) (files.destination path) beside) := by
  intro beside
  obtain ⟨ordinary', named', -⟩ := temporary_of_names ordinary named
  have directory' : files.entry? (files.start (temporary path) ++ front) = some .directory := by
    rw [start_temporary files ordinary named]
    exact directory
  have place : beside = files.start path ++ front ++ [Path.withEnding "toml.tmp" name] :=
    destination_temporary files ordinary named
  have filled : beside ≠ [] := by simp [place]
  have written := tree.write_of_directory ordinary' takes' named' directory' (Text.encode text)
  by_cases taken : files.entry? beside = some .directory
  · left
    rw [store, written, if_pos taken]
    exact ⟨taken, _, rfl⟩
  · right
    rw [if_neg taken] at written
    -- The tree has the temporary file now, and everything else is as before.
    have tree' : (files.put beside (.file (Text.encode text))).IsTree := by
      rw [place] at taken ⊢
      exact tree.put directory taken _
    have kept := Files.entry?_put_of_directory filled taken directory (Text.encode text)
    have absent' : Files.entry? (files.put beside (.file (Text.encode text)))
        (files.destination path) = none := by
      rw [Files.entry?_put files filled, if_neg (destination_ne_temporary files ordinary named),
        absent]
    have file : Files.entry? (files.put beside (.file (Text.encode text))) beside =
        some (.file (Text.encode text)) := by
      rw [Files.entry?_put files filled, if_pos rfl]
    obtain ⟨after, moved, tree'', stored⟩ :=
      exists_moveFile tree' ordinary takes takes' named kept absent' file
    exact ⟨taken, after, store_of_ok written moved, tree'', stored.of_put filled⟩

end Store

/-! ## Making the file -/

/-- Whether a configuration file can be made: nothing is there yet, no file is in the way, and the
    temporary file would not be a directory. -/
structure IsFree (files : Files) (path : Path) : Prop where
  absent : files.entry? (files.destination path) = none
  unblocked : ∀ around content, around <+: files.destination path →
    around ≠ files.destination path → files.entry? around ≠ some (.file content)
  beside : files.entry? (files.destination (temporary path)) ≠ some .directory

/-- Whether nothing has changed but that the template is at the path, nothing is where the temporary
    file would be, and all that the path is inside are directories. -/
structure HasInit (files after : Files) (path : Path) : Prop where
  entries : ∀ place, after.entry? place =
    if place = files.destination path then some (.file (Text.encode template))
    else if place = files.destination (temporary path) then none
    else if place <+: files.destination path then some .directory
    else files.entry? place
  current : after.current = files.current

theorem IsFree.not_isBlocked (free : IsFree files path) :
    ¬ files.IsBlocked (files.destination path) := by
  rintro ⟨around, content, before, file⟩
  by_cases same : around = files.destination path
  · rw [same, free.absent] at file
    cases file
  · exact free.unblocked around content before same file

theorem IsFree.names_ne_nil (free : IsFree files path) (tree : files.IsTree) : path.names ≠ [] := by
  intro nameless
  have absent := free.absent
  rw [Files.destination_of_nameless nameless, tree.start_directory path] at absent
  cases absent

theorem IsFree.isEmpty_eq_false (free : IsFree files path) (tree : files.IsTree) :
    path.isEmpty = false := by
  obtain nameless | ⟨front, name, named⟩ := List.eq_nil_or_concat' path.names
  · exact absurd nameless (free.names_ne_nil tree)
  · exact Path.isEmpty_of_names named

theorem init_of_holds (there : files.holds path = true) :
    init files path = (.error (.exists path), files) := by
  rw [init, if_pos there]

/-- A path without names is that of a directory, or the empty one. -/
theorem init_of_nameless (tree : files.IsTree) (ordinary : path.IsOrdinary) (takes : Takes path)
    (nameless : path.names = []) : ∃ error, init files path = (.error error, files) := by
  cases blank : path.isEmpty with
  | false =>
    have there : files.holds path = true := by
      rw [tree.holds_eq ordinary takes blank, Files.destination_of_nameless nameless,
        tree.start_directory path]
      rfl
    exact ⟨_, init_of_holds there⟩
  | true =>
    have lost (names : List String) : files.follow path names = .error .notThere := by
      rw [Files.follow, if_pos blank]
    have unheld : files.holds path = false := by
      simp only [Files.holds, Files.find, takes.usable, lost]
      rfl
    have unwritten (content : Bytes) : files.write (temporary path) content = .error .notThere := by
      rw [temporary, Path.withExtension_of_nameless nameless]
      simp only [Files.write, Files.around, takes.usable, lost]
      rfl
    have refused : store files path template =
        (.error (.write (temporary path) .notThere), files) := by
      rw [store, unwritten]
    refine ⟨.write (temporary path) .notThere, ?_⟩
    rw [init, unheld, makeParents, Path.parent?_of_nameless nameless]
    exact refused

theorem makeParents_of_parent? {around : Path} (parent : path.parent? = some around) :
    makeParents files path =
      match files.makePath around with
      | (.ok (), files) => (.ok (), files)
      | (.error cause, files) => (.error (.directory around cause), files) := by
  rewrite [makeParents, parent]
  rfl

/-- Storing the template after the directories around it have been made: if that is refused, there
    was none to make. -/
theorem store_of_hasMade {made : Files} (tree : files.IsTree) (ordinary : path.IsOrdinary)
    (takes : Takes path) (takes' : Takes (temporary path)) (named : path.names = front ++ [name])
    (absent : files.entry? (files.destination path) = none)
    (hasMade : HasMade files made (files.start path ++ front))
    (same : files.entry? (files.start path ++ front) = some .directory → made = files) :
    (¬ IsFree files path ∧ ∃ error, store made path template = (.error error, files)) ∨
      (IsFree files path ∧ ∃ after, store made path template = (.ok (), after) ∧ after.IsTree ∧
        HasInit files after path) := by
  have place : files.destination path = files.start path ++ front ++ [name] :=
    Files.destination_of_names named
  have place' := destination_temporary files ordinary named
  have inside (other : Place) : other <+: files.destination path ↔
      other = files.destination path ∨ other <+: files.start path ++ front := by
    rw [place]
    exact List.prefix_concat_iff
  have equal (p : Path) : made.destination p = files.destination p :=
    Files.destination_congr hasMade.current p
  have directory : made.entry? (made.start path ++ front) = some .directory := by
    rw [Files.start_congr hasMade.current]
    exact hasMade.directory
  have absent' : made.entry? (made.destination path) = none := by
    rw [equal, place, hasMade.entry?_concat, ← place, absent]
  have beside : made.entry? (made.destination (temporary path)) =
      files.entry? (files.destination (temporary path)) := by
    rw [equal, place', hasMade.entry?_concat]
  obtain ⟨taken, error, refused⟩ | ⟨untaken, after, stored, tree', hasStored⟩ :=
    store_cases (hasMade.isTree tree) ordinary takes takes' named directory absent' template
  · rw [beside] at taken
    refine .inl ⟨fun free => free.beside taken, error, ?_⟩
    -- A directory at the temporary path is in a directory that was there before.
    rw [place'] at taken
    rwa [same (tree.inside _ _ _ taken)] at refused ⊢
  · rw [beside] at untaken
    refine .inr ⟨⟨absent, ?_, untaken⟩, after, stored, tree', ?_, ?_⟩
    · intro around content before differs file
      exact hasMade.free ⟨around, content, (inside around).mp before |>.resolve_left differs, file⟩
    · intro other
      simp only [hasStored.entries, equal, hasMade.entries, inside]
      by_cases there : other = files.destination path <;> simp [there]
    · rw [hasStored.current, hasMade.current]

/-- What making a configuration file comes to: it is there, or nothing has changed. -/
theorem init_cases (tree : files.IsTree) (ordinary : path.IsOrdinary) (takes : Takes path)
    (takes' : Takes (temporary path)) :
    (¬ IsFree files path ∧ ∃ error, init files path = (.error error, files)) ∨
      (IsFree files path ∧ ∃ after, init files path = (.ok (), after) ∧ after.IsTree ∧
        HasInit files after path) := by
  obtain nameless | ⟨front, name, named⟩ := List.eq_nil_or_concat' path.names
  · exact .inl ⟨fun free => free.names_ne_nil tree nameless,
      init_of_nameless tree ordinary takes nameless⟩
  have filled := Path.isEmpty_of_names named
  cases there : files.entry? (files.destination path) with
  | some entry =>
    have held : files.holds path = true := by
      rw [tree.holds_eq ordinary takes filled, there]
      rfl
    refine .inl ⟨fun free => ?_, _, init_of_holds held⟩
    rw [free.absent] at there
    cases there
  | none =>
    have unheld : files.holds path = false := by
      rw [tree.holds_eq ordinary takes filled, there]
      rfl
    -- Nothing is at the path, so what counts is whether what is around it can be made.
    obtain ⟨around, parent, before⟩ := ordinary.exists_parent? named
    have inner : files.destination around = files.start path ++ front :=
      Files.destination_of_isAround before
    have place : files.destination path = files.destination around ++ [name] := by
      rw [inner, Files.destination_of_names named]
    rw [init, unheld, makeParents_of_parent? parent]
    have spread := tree.spread_makePath before.ordinary (takes.of_isAround named before)
    generalize files.makePath around = made at spread ⊢
    cases spread with
    | @refused cause blocked =>
      refine .inl ⟨fun free => free.not_isBlocked ?_, .directory around cause, rfl⟩
      rw [place]
      exact Files.isBlocked_concat.mpr (.inl blocked)
    | made hasMade same =>
      rw [inner] at hasMade same
      exact store_of_hasMade tree ordinary takes takes' named there hasMade same

/-! ## Reading it back -/

theorem HasInit.read {after : Files} (hasInit : HasInit files after path) (tree : after.IsTree)
    (ordinary : path.IsOrdinary) (takes : Takes path) (filled : path.isEmpty = false) :
    after.read path = .ok (Text.encode template) := by
  have place := Files.destination_congr hasInit.current path
  have file : after.entry? (after.destination path) = some (.file (Text.encode template)) := by
    rw [place, hasInit.entries, if_pos rfl]
  have found := tree.find_of_there ordinary takes filled file
  simp only [Files.read, found, file, bind, Except.bind, pure, Except.pure]

theorem readFile_of_read {text : String} (content : files.read path = .ok (Text.encode text)) :
    readFile files path = .ok text := by
  simp only [readFile, content, bind, Except.bind, Text.decode?_encode, pure, Except.pure]

theorem load_of_read (content : files.read path = .ok (Text.encode template)) :
    load files path = .ok {} := by
  have parsed : parse files path = .ok {} := by
    rw [parse_of_readFile (readFile_of_read content), ofText_template]
  rw [load_of_parse parsed]
  rfl

/-- Making a configuration file at an ordinary path of a tree, when the system takes it and the
    temporary one, is all or nothing: it works exactly if the path is free, and then nothing else has
    changed, the defaults are read from there, and it is never made there again; and if it does not
    work, nothing has changed at all. -/
theorem init_all_or_nothing (tree : files.IsTree) (ordinary : path.IsOrdinary)
    (takes : Takes path) (takes' : Takes (temporary path)) :
    let result := (init files path).1
    let after := (init files path).2
    (result = .ok () ↔ IsFree files path) ∧
    (result = .ok () →
      HasInit files after path ∧ load after path = .ok {} ∧
      init after path = (.error (.exists path), after) ∧
      ∀ later content, Files.read later path = .ok content →
        init later path = (.error (.exists path), later)) ∧
    ∀ error, result = .error error → after = files := by
  have again (later : Files) (content : Bytes) (there : later.read path = .ok content) :
      init later path = (.error (.exists path), later) :=
    init_of_holds (holds_of_read there)
  obtain ⟨unfree, error, refused⟩ | ⟨free, made, makes, tree', hasInit⟩ :=
    init_cases tree ordinary takes takes'
  · rw [refused]
    exact ⟨iff_of_false nofun unfree, nofun, fun _ _ => rfl⟩
  · rw [makes]
    have content := hasInit.read tree' ordinary takes (free.isEmpty_eq_false tree)
    refine ⟨iff_of_true rfl free, fun _ => ?_, nofun⟩
    exact ⟨hasInit, load_of_read content, again made _ content, again⟩

/-- A file in a directory that is made with it, where there is another file already. -/
theorem init_all_or_nothing_fresh :
    let files : Files :=
      { entries := [(["home"], .directory), (["home", "notes"], .file [104, 105])]
        current := ["home"] }
    let path : Path := ⟨"settings", ["config.toml"]⟩
    files.IsTree ∧ path.IsOrdinary ∧ Takes path ∧ Takes (temporary path) ∧
      (init files path).1 = .ok () ∧
      Files.entry? (init files path).2 ["home", "settings"] = some .directory ∧
      Files.entry? (init files path).2 ["home", "notes"] = some (.file [104, 105]) ∧
      load (init files path).2 path = .ok {} := by
  intro files path
  have tree : files.IsTree := Files.isTree_of_entries (by decide) rfl
  have ordinary : path.IsOrdinary := ⟨by decide, by decide⟩
  have takes : Takes path :=
    ⟨by rw [Files.requireUsable, if_neg (by decide), if_pos (by decide)], by decide⟩
  have takes' : Takes (temporary path) :=
    ⟨by rw [Files.requireUsable, if_neg (by decide), if_pos (by decide)], by decide⟩
  have clear : ¬ files.IsBlocked (["home"] ++ ["settings"] ++ ["config.toml"]) :=
    tree.not_isBlocked_of_absent rfl rfl _
  obtain ⟨works, leaves, -⟩ := init_all_or_nothing tree ordinary takes takes'
  have made : (init files path).1 = .ok () :=
    works.mpr ⟨rfl, fun around content before _ file => clear ⟨around, content, before, file⟩,
      by decide⟩
  obtain ⟨hasInit, loaded, -⟩ := leaves made
  exact ⟨tree, ordinary, takes, takes', made, (hasInit.entries _).trans (by decide),
    (hasInit.entries _).trans (by decide), loaded⟩

end Lifeline.Config
