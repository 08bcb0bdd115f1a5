import AdminGrid.Descriptor.Filter
import AdminGrid.Store.Condition
import AdminGrid.Store.Typed

/-!
# Typed clauses

The conditions of a staged compilation.  Filter values are compared as the types of their columns
see them: equality with null asks whether a cell is there, truth values are constants, and there is
no order of null or of truth values.
-/

namespace AdminGrid.Staged

open Store

/-- A column with its type. -/
structure TypedColumn where
  ref : ColumnRef
  type : ColumnType

/-- A value as it is compared with a column. -/
def TypedColumn.parameter (c : TypedColumn) (v : Value) : Parameter :=
  ⟨c.type.meaning.compared v, v⟩

/-- A truth value as a constant of a statement. -/
def constant (b : Bool) : Parameter := ⟨.integer, .int (if b then 1 else 0)⟩

/-- The condition that a column equals a value. -/
def equalClause (c : TypedColumn) (v : Value) : Condition Parameter :=
  match v with
  | .null => .isNull c.ref
  | .bool b => .compare .equal c.ref (constant b)
  | v => .compare .equal c.ref (c.parameter v)

/-- The condition that a column does not equal a value. -/
def unequalClause (c : TypedColumn) (v : Value) : Condition Parameter :=
  match v with
  | .null => .notNull c.ref
  | .bool b => .compare .unequal c.ref (constant b)
  | v => .compare .unequal c.ref (c.parameter v)

/-- The condition that a column stands in an order to a value. -/
def orderClause (op : Comparison) (c : TypedColumn) (v : Value) : Attempt (Condition Parameter) :=
  match v with
  | .null | .bool _ => .error .unavailable
  | v => .ok (.compare op c.ref (c.parameter v))

/-- Whether a value is null. -/
def isNullValue : Value → Bool
  | .null => true
  | _ => false

/-- The condition that a column holds one of some values.  The first value settles the type of them
all, unless null is among them: then each has its own type, and all must be constants. -/
def amongClause (c : TypedColumn) (v : Value) : Attempt (Condition Parameter) :=
  let vs := v.items?.getD [v]
  match vs with
  | [] => .ok .never
  | first :: _ =>
      if vs.any isNullValue then
        if vs.all Value.isConstant then .ok (.among c.ref (vs.map c.parameter))
        else .error .wrongKind
      else .ok (.among c.ref (vs.map fun w => ⟨c.type.meaning.compared first, w⟩))

/-- The bounds of a range. -/
def rangeBounds (v : Value) : Value × Value :=
  match v.entries?, v.items? with
  | some entries, _ => (cellAt entries "from", cellAt entries "to")
  | none, some [low, high] => (low, high)
  | none, _ => (.null, .null)

/-- The condition that a column stands in an order to a bound, none for the bound null. -/
def boundClause (op : Comparison) (c : TypedColumn) (v : Value) :
    Attempt (List (Condition Parameter)) :=
  match v with
  | .null => .ok []
  | v => do return [← orderClause op c v]

/-- The conditions that keep a column within a range. -/
def rangeClauses (c : TypedColumn) (v : Value) : Attempt (List (Condition Parameter)) := do
  let bounds := rangeBounds v
  let low ← boundClause .greaterOrEqual c bounds.1
  let high ← boundClause .lessOrEqual c bounds.2
  return low ++ high

/-- The conditions of a filter on a column.  A filter that looks for a text writes its value out. -/
def filterClauses (c : TypedColumn) (op : FilterOperator) (v : Value) :
    Attempt (List (Condition Parameter)) :=
  match op with
  | .equals => .ok [equalClause c v]
  | .notEqual => .ok [unequalClause c v]
  | .contains => do return [.like c.ref ("%" ++ (← v.written) ++ "%")]
  | .startsWith => do return [.like c.ref ((← v.written) ++ "%")]
  | .endsWith => do return [.like c.ref ("%" ++ (← v.written))]
  | .greaterThan => do return [← orderClause .greater c v]
  | .lessThan => do return [← orderClause .less c v]
  | .greaterThanOrEqual => do return [← orderClause .greaterOrEqual c v]
  | .lessThanOrEqual => do return [← orderClause .lessOrEqual c v]
  | .blank => .ok [.isBlank c.ref]
  | .notBlank => .ok [.notBlank c.ref]
  | .among => do return [← amongClause c v]
  | .inRange => rangeClauses c v

/-- The condition that a column holds a text, without regard to small and capital letters. -/
def searchClause (c : TypedColumn) (term : String) : Condition Parameter :=
  .likeLower c.ref ("%" ++ term ++ "%")

end AdminGrid.Staged
