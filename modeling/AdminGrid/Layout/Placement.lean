import AdminGrid.Descriptor.Formula
import AdminGrid.Layout.Relations
import AdminGrid.Text.Digit

/-!
# Places of formula columns

Formula columns are inserted group by group: those at the start, those after the end, those before
another column, those after another column, and those before the end.  When a formula stands after
another column, the formulas after the end are moved behind everything else.
-/

namespace AdminGrid.Layout

/-- The column of row numbers. -/
def numberColumn : String := "number_lists"

/-- The column of action buttons. -/
def actionColumn : String := "action"

/-- A formula beside a column: the column's name, or its index where the index was given. -/
structure Beside where
  name : String
  target : Option String
  index : Nat
  deriving DecidableEq

/-- The accepted formulas by group, each group in the order of declaration. -/
structure Groups where
  first : List String
  lastAfter : List String
  lastBefore : List String
  before : List Beside
  after : List Beside

/-- The index that a target denotes.  A text of digits without place value is refused, and so is an
index of too many digits: no list has it, and it cannot be written in the warning that says so. -/
def targetIndex? (target : Anchor) : Attempt (Option Int) :=
  match target with
  | .index i =>
      if Reading.maxDigits < (Nat.toDigits 10 i.natAbs).length then .error .badValue
      else .ok (some i)
  | .name s =>
      let digits := Text.strip s
      if digits = "" || !digits.toList.all Text.isDigit then .ok none
      else match Reading.int? digits with
        | some i => .ok (some i)
        | none => .error .badValue

/-- What a formula stands beside: its anchor, or its last source field without one. -/
def targetOf (f : FormulaSpec) : Option Anchor :=
  match f.placement.anchor with
  | none | some (.name "") => f.sourceFields.getLast?.map Anchor.name
  | anchor => anchor

/-- The place of a formula beside a column, if the column is there. -/
def besideOf (columns : List String) (name : String) (target : Anchor) : Attempt (Option Beside) :=
  let byName : Option Beside := match target with
    | .name s => if columns.contains s then some ⟨name, some s, columns.idxOf s⟩ else none
    | .index _ => none
  match byName with
  | some place => .ok (some place)
  | none => do
      match ← targetIndex? target with
      | some i =>
          if 0 ≤ i && i < columns.length then return some ⟨name, none, i.toNat⟩ else return none
      | none => return none

/-- Adds a formula to its group; none if it is left out. -/
def Groups.add? (columns : List String) (g : Groups) (f : FormulaSpec) : Attempt (Option Groups) :=
  match f.placement.anchor with
  | some (.name "first") => .ok (some { g with first := g.first ++ [f.name] })
  | some (.name "last") =>
      if f.placement.after then .ok (some { g with lastAfter := g.lastAfter ++ [f.name] })
      else .ok (some { g with lastBefore := g.lastBefore ++ [f.name] })
  | _ =>
      match targetOf f with
      | none => .ok none
      | some target => do
          match ← besideOf columns f.name target with
          | none => return none
          | some place =>
              if f.placement.after then return some { g with after := g.after ++ [place] }
              else return some { g with before := g.before ++ [place] }

/-- Sorts formulas into groups.  A formula whose name is taken, by a column or by an earlier
formula, is left out. -/
def groupFormulas (columns : List String) :
    List FormulaSpec → (taken : List String) → Groups → Attempt Groups
  | [], _, g => .ok g
  | f :: rest, taken, g =>
      if taken.contains f.name then groupFormulas columns rest taken g
      else do
        match ← g.add? columns f with
        | some g => groupFormulas columns rest (f.name :: taken) g
        | none => groupFormulas columns rest taken g

/-- Inserts the formulas at the start, after the column of row numbers. -/
def insertFirst (columns names : List String) : List String :=
  let base := if columns.contains numberColumn then 1 else 0
  (names.zipIdx).foldl (fun cs (name, offset) => insertAt cs (base + offset) name) columns

/-- Inserts the formulas after the end: each where the column of buttons stood, or at the end. -/
def insertLastAfter (columns names : List String) : List String :=
  if columns.contains actionColumn then
    let at_ := columns.idxOf actionColumn
    names.foldl (fun cs name => insertAt cs at_ name) columns
  else columns ++ names

/-- The index of what a formula stands beside. -/
def Beside.place (b : Beside) (columns : List String) : Nat :=
  match b.target with
  | some target => if columns.contains target then columns.idxOf target else b.index
  | none => b.index

/-- Inserts a formula before its column.  Before the column of buttons it stands before the
`behind` formulas that were put there. -/
def insertBefore (behind : Nat) (columns : List String) (b : Beside) : List String :=
  let i := b.place columns
  insertAt columns (if b.target = some actionColumn then i - behind else i) b.name

/-- Inserts a formula after its column. -/
def insertAfter (columns : List String) (b : Beside) : List String :=
  insertAt columns (b.place columns + 1) b.name

/-- Moves the named columns to the end. -/
def moveToEnd (columns names : List String) : List String :=
  (columns.filter names.contains).foldl (fun cs name => cs.erase name ++ [name]) columns

/-- Inserts the formulas of all groups. -/
def Groups.insertInto (g : Groups) (columns : List String) : List String :=
  let columns := insertFirst columns g.first
  let columns := insertLastAfter columns g.lastAfter
  let columns := g.before.foldl (insertBefore g.lastAfter.length) columns
  let columns := g.after.foldl insertAfter columns
  let columns :=
    if g.after.isEmpty || g.lastAfter.isEmpty then columns else moveToEnd columns g.lastAfter
  g.lastBefore.foldl (fun cs name => insertAt cs (cs.length - 1) name) columns

/-- The columns with the formula columns among them. -/
def placeFormulas (columns : List String) (formulas : List FormulaSpec) :
    Attempt (List String) := do
  let g ← groupFormulas columns formulas columns ⟨[], [], [], [], []⟩
  return g.insertInto columns

end AdminGrid.Layout
