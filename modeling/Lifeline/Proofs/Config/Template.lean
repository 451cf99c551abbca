import Mathlib.Data.String.Basic
import Lifeline.Proofs.Config.Loading

/-! # The text of the default configuration is read as it

What the program writes into a new file gives the defaults and nothing else when it is read
(`ofText_template`).
-/

namespace Lifeline.Config

theorem toList_document (c : Config) :
    c.document.toList = c.documentLines.flatMap fun line => line.toList ++ ['\n'] := by
  rw [document, String.toList_join, List.flatMap_map]
  simp

/-- The table that a document has, read from its characters. -/
def tableOf? (cs : List Char) : Option Toml.Table := do
  let cs := Toml.skipMark cs
  let (entries, parts) := Toml.sections (← Toml.readLines (cs.length + 1) cs)
  Toml.Table.ofSections entries parts

theorem ofText_eq_ok {text : String} {c : Config}
    (given : (tableOf? text.toList).bind (fun t => (ofTable t).toOption) = some c) :
    ofText text = .ok c := by
  obtain ⟨t, read, taken⟩ := Option.bind_eq_some_iff.mp given
  have accepted : Toml.read text = some t := read
  cases made : ofTable t with
  | ok d =>
    rw [made] at taken
    rw [ofText_of_read accepted, made, ← Option.some.inj taken]
    rfl
  | error mismatch =>
    rw [made] at taken
    cases taken

theorem ofText_template : ofText template = .ok {} := by
  apply ofText_eq_ok
  rw [template, toList_document]
  -- The kernel reads the lines one by one, and never puts the text together.
  decide +kernel

/-- The template begins with a comment. -/
theorem head?_template : (Text.encode template).head? = some 35 := by
  rw [Text.encode, template, toList_document]
  decide +kernel

end Lifeline.Config
