import AdminGrid.Store.Affinity
import AdminGrid.Store.Pattern
import AdminGrid.Store.Table

/-!
# Conditions on rows

A condition is true, false or neither of a row: a comparison with nothing is neither.  Rows count
only where the whole condition is true.  The values of a condition are values of a request until the
condition is bound, and cells afterwards.
-/

namespace AdminGrid.Store

/-- A column of the base table, or of a table that was joined under an alias. -/
structure ColumnRef where
  alias? : Option String
  column : String
  affinity : Affinity
  deriving DecidableEq

/-- A row of the base table with the rows joined to it; a join without a match has none. -/
structure JoinedRow where
  base : StoredRow
  related : Entries (Option StoredRow)

/-- The cell of a column in a joined row. -/
def JoinedRow.cell (row : JoinedRow) (c : ColumnRef) : Stored :=
  match c.alias? with
  | none => (Entries.get? c.column row.base).getD .null
  | some joined => match (row.related.get? joined).join with
    | some related => (Entries.get? c.column related).getD .null
    | none => .null

/-- A comparison of a cell with a value. -/
inductive Comparison where
  | equal | unequal | less | lessOrEqual | greater | greaterOrEqual
  deriving DecidableEq

/-- Whether a comparison holds of an order. -/
def Comparison.holds : Comparison → Ordering → Bool
  | equal, o => o == .eq
  | unequal, o => o != .eq
  | less, o => o == .lt
  | lessOrEqual, o => o != .gt
  | greater, o => o == .gt
  | greaterOrEqual, o => o != .lt

/-- A condition on rows, with values of some kind. -/
inductive Condition (α : Type) where
  | compare (op : Comparison) (c : ColumnRef) (v : α)
  /-- The text of a cell fits a pattern. -/
  | like (c : ColumnRef) (pattern : String)
  /-- The text of a cell in small letters fits a pattern in small letters. -/
  | likeLower (c : ColumnRef) (pattern : String)
  | isNull (c : ColumnRef)
  | notNull (c : ColumnRef)
  /-- A cell is nothing, or its text is empty. -/
  | isBlank (c : ColumnRef)
  /-- A cell is something, and its text is not empty. -/
  | notBlank (c : ColumnRef)
  | among (c : ColumnRef) (vs : List α)
  | never
  | both (p q : Condition α)
  | either (p q : Condition α)

namespace Condition

/-- The truth of a conjunction. -/
def and3 : Option Bool → Option Bool → Option Bool
  | some false, _ => some false
  | _, some false => some false
  | some true, some true => some true
  | _, _ => none

/-- The truth of a disjunction. -/
def or3 : Option Bool → Option Bool → Option Bool
  | some true, _ => some true
  | _, some true => some true
  | some false, some false => some false
  | _, _ => none

/-- The truth of a comparison. -/
def compareTruth (op : Comparison) (c : ColumnRef) (row : JoinedRow) (v : Stored) : Option Bool :=
  (c.affinity.compare? (row.cell c) v).map op.holds

/-- The truth of a condition of a row. -/
def truth (row : JoinedRow) : Condition Stored → Option Bool
  | compare op c v => compareTruth op c row v
  | like c pattern => (row.cell c).text?.map (Store.like pattern)
  | likeLower c pattern =>
      (row.cell c).text?.map fun s => Store.like (lowerAscii pattern) (lowerAscii s)
  | isNull c => some (row.cell c == .null)
  | notNull c => some (row.cell c != .null)
  | isBlank c => some (match (row.cell c).text? with
      | none => true
      | some s => s == "")
  | notBlank c => some (match (row.cell c).text? with
      | none => false
      | some s => s != "")
  | among c vs => (vs.map (compareTruth .equal c row)).foldl or3 (some false)
  | never => some false
  | both p q => and3 (truth row p) (truth row q)
  | either p q => or3 (truth row p) (truth row q)

/-- A condition with its values replaced by what a function makes of them, from left to right. -/
def traverse {α β : Type} (f : α → Attempt β) : Condition α → Attempt (Condition β)
  | compare op c v => do return compare op c (← f v)
  | like c pattern => .ok (like c pattern)
  | likeLower c pattern => .ok (likeLower c pattern)
  | isNull c => .ok (isNull c)
  | notNull c => .ok (notNull c)
  | isBlank c => .ok (isBlank c)
  | notBlank c => .ok (notBlank c)
  | among c vs => do return among c (← vs.mapM f)
  | never => .ok never
  | both p q => do return both (← traverse f p) (← traverse f q)
  | either p q => do return either (← traverse f p) (← traverse f q)

/-- The disjunction of conditions, none of no conditions. -/
def any? {α : Type} : List (Condition α) → Option (Condition α)
  | [] => none
  | c :: rest => some (rest.foldl either c)

end Condition

end AdminGrid.Store
