import Lifeline.Mismatch

/-! # Tables

A document is a table: named items in the order in which their names came up.  An item enters a
table under a dotted name, or under a heading that opens a table for the items after it.  The names
on the way open tables of their own, and the way in which a table came about decides what can still
be put into it, so that no item is ever given twice.
-/

namespace Lifeline.Toml

inductive Origin where
  /-- Under a heading of its own. -/
  | headed
  /-- On the way of a heading to a table inside it. -/
  | crossed
  /-- On the way of a dotted name to an item inside it. -/
  | dotted
deriving DecidableEq, Repr

inductive Item where
  | string (value : String)
  | integer (value : Int)
  | number (value : Binary64)
  | boolean (value : Bool)
  | moment
  | array (items : List Item)
  /-- A table between braces, which nothing can be put into. -/
  | braced (entries : List (String × Item))
  | table (origin : Origin) (entries : List (String × Item))
  /-- The tables that one doubly bracketed heading opened, in order. -/
  | tables (members : List (List (String × Item)))
deriving Repr

/-- Named items, in the order in which their names came up. -/
abbrev Table := List (String × Item)

def Item.found : Item → Found
  | .string value => .string value
  | .integer value => .integer value
  | .number value => .number value
  | .boolean value => .boolean value
  | .array _ | .tables _ => .sequence
  | .moment | .braced _ | .table _ _ => .map

namespace Table

def get? (name : String) (t : Table) : Option Item := List.lookup name t

def replace (name : String) (item : Item) (t : Table) : Table :=
  t.map fun entry => if entry.1 = name then (name, item) else entry

def erase (name : String) (t : Table) : Table := t.filter fun entry => entry.1 ≠ name

def append (name : String) (item : Item) (t : Table) : Table := t ++ [(name, item)]

def changeLast (change : Table → Option Table) (members : List Table) : Option (List Table) :=
  match members.getLast? with
  | none => none
  | some last => (change last).map fun last => members.dropLast ++ [last]

/-! ## Dotted names -/

/-- Adds an item under a dotted name, which no item may have yet.  The names on the way open tables.
    A table with a heading of its own is closed to dotted names; one that a heading crossed and the
    last of several tables can be gone through, but nothing can be put right into them. -/
def add (item : Item) (name : String) : List String → Table → Option Table
  | [], t =>
    match t.get? name with
    | none => some (t.append name item)
    | some _ => none
  | step :: path, t =>
    match t.get? step with
    | none => (add item name path []).map fun inner => t.append step (.table .dotted inner)
    | some (.table .dotted inner) =>
      (add item name path inner).map fun inner => t.replace step (.table .dotted inner)
    | some (.table .crossed inner) =>
      if path.isEmpty then none
      else (add item name path inner).map fun inner => t.replace step (.table .crossed inner)
    | some (.tables members) =>
      if path.isEmpty then none
      else (changeLast (add item name path) members).map fun members =>
        t.replace step (.tables members)
    | some _ => none

structure Entry where
  path : List String
  name : String
  item : Item
deriving Repr

def addAll (entries : List Entry) (t : Table) : Option Table :=
  entries.foldlM (fun t entry => add entry.item entry.name entry.path t) t

/-! ## Headings -/

/-- Changes the table that the names before the last one of a heading lead to.  Any table can be gone
    through. -/
def enter (change : Table → Option Table) : List String → Table → Option Table
  | [], t => change t
  | step :: path, t =>
    match t.get? step with
    | none => (enter change path []).map fun inner => t.append step (.table .crossed inner)
    | some (.table origin inner) =>
      (enter change path inner).map fun inner => t.replace step (.table origin inner)
    | some (.tables members) =>
      (changeLast (enter change path) members).map fun members => t.replace step (.tables members)
    | some _ => none

/-- Opens a table and puts items into it.  A table that was only crossed before is opened where it
    is left off, and moves behind the items of the table around it. -/
def openTable (entries : List Entry) (name : String) (t : Table) : Option Table :=
  match t.get? name with
  | none => (addAll entries []).map fun inner => t.append name (.table .headed inner)
  | some (.table .crossed inner) =>
    (addAll entries inner).map fun inner => (t.erase name).append name (.table .headed inner)
  | some _ => none

def openNext (entries : List Entry) (name : String) (t : Table) : Option Table :=
  match t.get? name with
  | none => (addAll entries []).map fun inner => t.append name (.tables [inner])
  | some (.tables members) =>
    (addAll entries []).map fun inner => t.replace name (.tables (members ++ [inner]))
  | some _ => none

structure Heading where
  path : List String
  name : String
  isRepeated : Bool
deriving DecidableEq, Repr

structure Section where
  heading : Heading
  entries : List Entry
deriving Repr

def addSection (t : Table) (part : Section) : Option Table :=
  let change := if part.heading.isRepeated then openNext else openTable
  enter (change part.entries part.heading.name) part.heading.path t

def ofSections (entries : List Entry) (sections : List Section) : Option Table :=
  (addAll entries []).bind fun t => sections.foldlM addSection t

end Table

end Lifeline.Toml
