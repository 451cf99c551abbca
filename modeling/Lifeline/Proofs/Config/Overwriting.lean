import Lifeline.Proofs.Config.Template
import Lifeline.Proofs.Files.Landings

/-! # What making a configuration file leaves alone

Whether a configuration file is there is asked before the directories around it are made, and the move
at the end replaces what it finds.  The directories change the answer for a path that steps back from
one of them: it can lead to a file that could not be found before.  This is the one way in which a file
is lost (`init_keeps_files`), and it happens (`init_loses_file`).
-/

namespace Lifeline.Config

open Files (IsTree Grows)

variable {files made after : Files} {path : Path} {place : Place} {content kept : Bytes}
  {result : Except InitError Unit}

/-! ## Storing a text -/

theorem grows_makeParents (files : Files) (path : Path) : Grows files (makeParents files path).2 := by
  rw [makeParents]
  split
  · exact .refl files
  · rename_i parent _
    have grows := Files.grows_makePath files parent
    split
    · rename_i made
      rwa [made] at grows
    · rename_i made
      rwa [made] at grows

/-- What storing a text at any path comes to: a refusal before or behind the temporary file, or the text
    in place of what was where the path leads. -/
inductive Storing (files : Files) (path : Path) (content : Bytes) :
    Except InitError Unit × Files → Prop where
  | unwritten {error : InitError} : Storing files path content (.error error, files)
  | unmoved {error : InitError} (beside : files.Lands (temporary path)) :
      Storing files path content
        (.error error, files.put (files.landing (temporary path)) (.file content))
  | moved {written : Files} (beside : files.Lands (temporary path))
      (writes : written = files.put (files.landing (temporary path)) (.file content))
      (lands : written.Lands path) :
      Storing files path content
        (.ok (), (written.erase (files.landing (temporary path))).put (files.landing path)
          (.file content))

theorem storing (files : Files) (path : Path) (text : String) :
    Storing files path (Text.encode text) (store files path text) := by
  rw [store]
  split
  · exact .unwritten
  · rename_i written writes
    obtain ⟨beside, -, rfl⟩ := Files.write_eq_ok writes
    split
    · exact .unmoved beside
    · rename_i moves
      obtain ⟨content, file, lands, rfl⟩ := Files.moveFile_eq_ok moves
      have same (p : Path) :
          (files.put (files.landing (temporary path)) (.file (Text.encode text))).landing p =
            files.landing p := Files.landing_congr rfl p
      rw [same, Files.entry?_put files beside.inside, if_pos rfl] at file
      obtain rfl : Text.encode text = content := by simpa using file
      rw [same, same]
      exact .moved beside rfl lands

/-- A file that is not the temporary one is replaced where the path leads, and nowhere else. -/
theorem Storing.keeps (storing : Storing files path content (result, after))
    (file : files.entry? place = some (.file kept))
    (other : files.find (temporary path) ≠ .ok place) :
    (result = .ok () ∧ place = files.landing path → after.entry? place = some (.file content)) ∧
      (¬ (result = .ok () ∧ place = files.landing path) →
        after.entry? place = some (.file kept)) := by
  have differs (beside : files.Lands (temporary path)) : place ≠ files.landing (temporary path) := by
    rintro rfl
    exact other (beside.found _ file)
  cases storing with
  | unwritten => exact ⟨nofun, fun _ => file⟩
  | unmoved beside =>
    refine ⟨nofun, fun _ => ?_⟩
    rw [Files.entry?_put files beside.inside, if_neg (differs beside), file]
  | @moved written beside writes lands =>
    have same : written.landing path = files.landing path :=
      Files.landing_congr (by rw [writes]; rfl) path
    have inside : files.landing path ≠ [] := same ▸ lands.inside
    rw [Files.entry?_put _ inside]
    refine ⟨fun hit => by rw [if_pos hit.2], fun missed => ?_⟩
    rw [if_neg fun there => missed ⟨rfl, there⟩, Files.entry?_erase _ beside.inside,
      if_neg (differs beside), writes, Files.entry?_put files beside.inside,
      if_neg (differs beside), file]

/-- A text is stored where a file was that the path did not lead to only if the path steps back from a
    directory that was made in between. -/
theorem Storing.backtracks (storing : Storing made path content (result, after))
    (tree : files.IsTree) (grows : Grows files made)
    (file : files.entry? (files.landing path) = some (.file kept))
    (lost : files.holds path = false) (works : result = .ok ()) : files.Backtracks path := by
  cases storing with
  | unwritten | unmoved => cases works
  | @moved written beside writes lands =>
    have same : written.current = files.current := by
      rw [writes]
      exact grows.current
    -- Neither the directories nor the temporary file have made a directory of a file.
    have solid (other : Place) (content' : Bytes) (solid : files.entry? other = some (.file content')) :
        ∃ content'', written.entry? other = some (.file content'') := by
      rw [writes, Files.entry?_put made beside.inside, grows.entries _ _ solid]
      split
      · exact ⟨content, rfl⟩
      · exact ⟨content', rfl⟩
    obtain ⟨content', there⟩ := solid _ _ file
    have found := lands.found (.file content')
    rw [Files.landing_congr same] at found
    exact tree.backtracks_of_find solid same file (found there) lost

/-! ## Making the file -/

theorem init_eq_store (files : Files) (path : Path) :
    (∃ error after, init files path = (.error error, after) ∧ Grows files after) ∨
      (files.holds path = false ∧
        init files path = store (makeParents files path).2 path template) := by
  have grows := grows_makeParents files path
  rw [init]
  split
  · exact .inl ⟨_, _, rfl, .refl files⟩
  · rename_i lost
    split
    · rename_i made
      rw [made] at grows
      exact .inl ⟨_, _, rfl, grows⟩
    · rename_i made
      rw [made]
      exact .inr ⟨eq_false_of_ne_true lost, rfl⟩

theorem entry?_init (file : files.entry? place = some (.file kept))
    (other : (makeParents files path).2.find (temporary path) ≠ .ok place) :
    ((init files path).1 = .ok () ∧ place = files.landing path →
        Files.entry? (init files path).2 place = some (.file (Text.encode template))) ∧
      (¬ ((init files path).1 = .ok () ∧ place = files.landing path) →
        Files.entry? (init files path).2 place = some (.file kept)) := by
  obtain ⟨error, later, refused, grows⟩ | ⟨-, stores⟩ := init_eq_store files path
  · rw [refused]
    exact ⟨nofun, fun _ => grows.entries _ _ file⟩
  · have grows := grows_makeParents files path
    rw [stores, ← Files.landing_congr grows.current]
    exact (storing _ path template).keeps (grows.entries _ _ file) other

theorem backtracks_of_init (tree : files.IsTree)
    (file : files.entry? (files.landing path) = some (.file kept))
    (works : (init files path).1 = .ok ()) : files.Backtracks path := by
  obtain ⟨error, later, refused, -⟩ | ⟨lost, stores⟩ := init_eq_store files path
  · rw [refused] at works
    cases works
  · rw [stores] at works
    exact (storing _ path template).backtracks tree (grows_makeParents files path) file lost works

/-- In a tree, making a configuration file at any path leaves every other file than the temporary one
    as it is, or it works and puts the template in place of the one file that the path leads to.  That
    happens only if the path has a step back from a place where nothing was, so that the file could not
    be found before the directories were made. -/
theorem init_keeps_files (tree : files.IsTree) (file : files.entry? place = some (.file kept))
    (other : (makeParents files path).2.find (temporary path) ≠ .ok place) :
    let result := (init files path).1
    let after := (init files path).2
    (¬ files.Backtracks path → after.entry? place = some (.file kept)) ∧
    (¬ (result = .ok () ∧ place = files.landing path) → after.entry? place = some (.file kept)) ∧
    (result = .ok () ∧ place = files.landing path →
      files.Backtracks path ∧ after.entry? place = some (.file (Text.encode template))) := by
  intro result after
  obtain ⟨replaces, keeps⟩ := entry?_init file other
  have returns : result = .ok () ∧ place = files.landing path → files.Backtracks path := by
    rintro ⟨works, rfl⟩
    exact backtracks_of_init tree file works
  exact ⟨fun straight => keeps (mt returns straight), keeps, fun hit => ⟨returns hit, replaces hit⟩⟩

/-- A file beside the one that is lost is kept. -/
theorem init_keeps_files_beside :
    let files : Files :=
      { entries := [(["diary.toml"], .file [35]), (["notes.toml"], .file [104, 105])] }
    let path : Path := ⟨"fresh", ["..", "notes.toml"]⟩
    files.IsTree ∧ files.entry? ["diary.toml"] = some (.file [35]) ∧
      (makeParents files path).2.find (temporary path) ≠ .ok ["diary.toml"] ∧
      (init files path).1 = .ok () ∧
      Files.entry? (init files path).2 ["diary.toml"] = some (.file [35]) := by
  intro files path
  have tree : files.IsTree := Files.isTree_of_entries (by decide) rfl
  have other : (makeParents files path).2.find (temporary path) ≠ .ok ["diary.toml"] := by
    decide +kernel
  have works : (init files path).1 = .ok () := by decide +kernel
  have elsewhere : ["diary.toml"] ≠ files.landing path := by decide
  obtain ⟨-, keeps, -⟩ := init_keeps_files tree rfl other
  exact ⟨tree, rfl, other, works, keeps fun hit => elsewhere hit.2⟩

/-- A file is lost that stands where the path leads by way of a directory that is made for it. -/
theorem init_loses_file :
    let files : Files := { entries := [(["notes.toml"], .file [104, 105])] }
    let path : Path := ⟨"fresh", ["..", "notes.toml"]⟩
    files.IsTree ∧ files.entry? ["notes.toml"] = some (.file [104, 105]) ∧
      (makeParents files path).2.find (temporary path) ≠ .ok ["notes.toml"] ∧
      (init files path).1 = .ok () ∧
      Files.entry? (init files path).2 ["notes.toml"] ≠ some (.file [104, 105]) := by
  intro files path
  have tree : files.IsTree := Files.isTree_of_entries (by decide) rfl
  have other : (makeParents files path).2.find (temporary path) ≠ .ok ["notes.toml"] := by
    decide +kernel
  have works : (init files path).1 = .ok () := by decide +kernel
  have there : ["notes.toml"] = files.landing path := by decide
  refine ⟨tree, rfl, other, works, fun kept => ?_⟩
  rw [(entry?_init rfl other).1 ⟨works, there⟩] at kept
  have same : Text.encode template = [104, 105] := by simpa using kept
  exact absurd (same ▸ head?_template) (by decide)

end Lifeline.Config
