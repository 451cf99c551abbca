import Lifeline.Toml.Document

/-! # The names of a table are different

An item enters a table only under a name that no item has, takes the place of the item that had its
name, or moves behind the others (`Edit`).  None of that ever gives a name twice, so the tables that
documents are read as have different names (`distinct_of_read`), and an item is found under a name
exactly if it stands in the table with it (`get?_eq_some_iff`).
-/

namespace Lifeline.Toml

namespace Table

variable {t u : Table} {name : String} {item : Item}

def Distinct (t : Table) : Prop := (t.map Prod.fst).Nodup

theorem get?_eq_none_iff : t.get? name = none ↔ ∀ item, (name, item) ∉ t := by
  rw [get?, List.lookup_eq_none_iff]
  constructor
  · intro other item member
    simpa using other (name, item) member
  · rintro absent ⟨other, item⟩ member
    simp only [bne_iff_ne]
    rintro rfl
    exact absent item member

theorem get?_eq_some_iff (distinct : t.Distinct) : t.get? name = some item ↔ (name, item) ∈ t := by
  induction t with
  | nil => simp [get?]
  | cons entry t inductionHypothesis =>
    obtain ⟨first, firstItem⟩ := entry
    obtain ⟨absent, distinct⟩ := List.nodup_cons.mp distinct
    by_cases same : name = first
    · subst same
      have elsewhere : (name, item) ∉ t := fun member => absent (List.mem_map.mpr ⟨_, member, rfl⟩)
      simp [get?, elsewhere, eq_comm]
    · have differs : (name == first) = false := by simpa using same
      have later : List.lookup name t = some item ↔ (name, item) ∈ t := inductionHypothesis distinct
      rw [get?, List.lookup_cons, differs, later]
      simp [same]

/-! ## Changes of a table -/

/-- What can happen to a table when an item enters it. -/
inductive Edit (t : Table) : Table → Prop where
  | append {name : String} (item : Item) (new : t.get? name = none) : Edit t (t.append name item)
  | replace (name : String) (item : Item) : Edit t (t.replace name item)
  | reopen (name : String) (item : Item) : Edit t ((t.erase name).append name item)

theorem Distinct.append (distinct : t.Distinct) (new : t.get? name = none) (item : Item) :
    (t.append name item).Distinct := by
  rw [get?_eq_none_iff] at new
  have absent : name ∉ t.map Prod.fst := by simpa using new
  simp only [Distinct, Table.append, List.map_append, List.map_cons, List.map_nil]
  apply List.nodup_append.mpr
  refine ⟨distinct, by simp, ?_⟩
  intro other member _ last
  rw [List.mem_singleton.mp last]
  rintro rfl
  exact absent member

theorem Edit.distinct (edit : Edit t u) (distinct : t.Distinct) : u.Distinct := by
  cases edit with
  | append item new => exact distinct.append new item
  | replace name item =>
    have names : (t.replace name item).map Prod.fst = t.map Prod.fst := by
      rw [Table.replace, List.map_map]
      apply List.map_congr_left
      intro entry _
      by_cases same : entry.1 = name <;> simp [same]
    rw [Distinct, names]
    exact distinct
  | reopen name item =>
    have remaining : (t.erase name).Distinct := distinct.sublist (List.filter_sublist.map Prod.fst)
    apply remaining.append
    rw [get?_eq_none_iff]
    simp [Table.erase]

theorem edit_add {path : List String} (added : t.add item name path = some u) : Edit t u := by
  cases path with
  | nil =>
    rw [Table.add] at added
    split at added
    case h_1 new =>
      obtain rfl := Option.some.inj added
      exact .append item new
    case h_2 => cases added
  | cons step path =>
    rw [Table.add] at added
    split at added
    case h_1 new =>
      obtain ⟨_, -, rfl⟩ := Option.map_eq_some_iff.mp added
      exact .append _ new
    case h_2 =>
      obtain ⟨_, -, rfl⟩ := Option.map_eq_some_iff.mp added
      exact .replace ..
    case h_5 => cases added
    all_goals
      split at added
      · cases added
      · obtain ⟨_, -, rfl⟩ := Option.map_eq_some_iff.mp added
        exact .replace ..

theorem edit_openTable {entries : List Entry} (opened : t.openTable entries name = some u) :
    Edit t u := by
  rw [openTable] at opened
  split at opened
  case h_1 new =>
    obtain ⟨_, -, rfl⟩ := Option.map_eq_some_iff.mp opened
    exact .append _ new
  case h_2 =>
    obtain ⟨_, -, rfl⟩ := Option.map_eq_some_iff.mp opened
    exact .reopen ..
  case h_3 => cases opened

theorem edit_openNext {entries : List Entry} (opened : t.openNext entries name = some u) :
    Edit t u := by
  rw [openNext] at opened
  split at opened
  case h_1 new =>
    obtain ⟨_, -, rfl⟩ := Option.map_eq_some_iff.mp opened
    exact .append _ new
  case h_2 =>
    obtain ⟨_, -, rfl⟩ := Option.map_eq_some_iff.mp opened
    exact .replace ..
  case h_3 => cases opened

theorem edit_enter {change : Table → Option Table} {path : List String}
    (edits : ∀ {t u}, change t = some u → Edit t u) (entered : t.enter change path = some u) :
    Edit t u := by
  cases path with
  | nil => exact edits entered
  | cons step path =>
    rw [enter] at entered
    split at entered
    case h_1 new =>
      obtain ⟨_, -, rfl⟩ := Option.map_eq_some_iff.mp entered
      exact .append _ new
    case h_4 => cases entered
    all_goals
      obtain ⟨_, -, rfl⟩ := Option.map_eq_some_iff.mp entered
      exact .replace ..

/-! ## Documents -/

theorem edit_addSection {part : Section} (added : t.addSection part = some u) : Edit t u := by
  rw [addSection] at added
  apply edit_enter _ added
  intro t u changed
  by_cases repeated : part.heading.isRepeated = true
  · rw [if_pos repeated] at changed
    exact edit_openNext changed
  · rw [if_neg repeated] at changed
    exact edit_openTable changed

/-- Changes one after the other keep the names of a table different. -/
theorem distinct_foldlM {α : Type} {change : Table → α → Option Table}
    (edits : ∀ {t u} (x), change t x = some u → Edit t u) {xs : List α} (distinct : t.Distinct)
    (folded : xs.foldlM change t = some u) : u.Distinct := by
  induction xs generalizing t with
  | nil =>
    obtain rfl := Option.some.inj folded
    exact distinct
  | cons x xs inductionHypothesis =>
    rw [List.foldlM_cons] at folded
    obtain ⟨next, changed, rest⟩ := Option.bind_eq_some_iff.mp folded
    exact inductionHypothesis ((edits x changed).distinct distinct) rest

theorem distinct_of_sections {entries : List Entry} {parts : List Section}
    (joined : ofSections entries parts = some t) : t.Distinct := by
  obtain ⟨top, added, rest⟩ := Option.bind_eq_some_iff.mp joined
  have topDistinct : top.Distinct :=
    distinct_foldlM (fun _ => edit_add) (t := []) List.nodup_nil added
  exact distinct_foldlM (fun _ => edit_addSection) topDistinct rest

end Table

theorem distinct_of_read {text : String} {t : Table} (accepted : read text = some t) :
    t.Distinct := by
  obtain ⟨lines, -, joined⟩ := Option.bind_eq_some_iff.mp accepted
  exact Table.distinct_of_sections joined

end Lifeline.Toml
