import AdminGrid.Descriptor.Filter
import AdminGrid.Store.Query
import AdminGrid.Text.Word
import AdminGrid.Value.Form

/-!
# Statements and clauses

A statement names tables and columns in quotation marks, and gives the places of its values by a
colon and a word.  A name that holds such a mark itself is taken for the place of a value that is
not given, so that the statement cannot be run.
-/

namespace AdminGrid.Direct

open Store

/-! ## Names in a statement -/

/-- Whether a place of a value starts behind a colon: a word of which at least one character is not
followed by another colon. -/
def placeStarts (cs : List Char) : Bool :=
  let word := cs.takeWhile Text.isWord
  2 ≤ word.length || (word.length = 1 && (cs.drop 1).head? != some ':')

/-- Whether a list holds the mark of a value's place, after the given character. -/
def marksPlace (before : Char) : List Char → Bool
  | [] => false
  | c :: rest =>
      (c == ':' && before != ':' && before != '\\' && !Text.isWord before && placeStarts rest) ||
        marksPlace c rest

/-- Whether a statement can name something. -/
def nameable (name : String) : Bool := !marksPlace '"' name.toList

/-- The alias of the table that a relation joins. -/
def joinAlias (relation : String) : String := "rel_" ++ relation

/-- A query with all the names that its statement uses. -/
structure Statement where
  names : List String
  query : Query Value

/-- The query of a statement, ready to be run. -/
def Statement.prepare (s : Statement) : Attempt (Query Stored) :=
  if s.names.all nameable then s.query.bind else .error .unavailable

/-- The names that a column is referred to by. -/
def namesOf (base : String) (c : ColumnRef) : List String := [c.alias?.getD base, c.column]

/-! ## Clauses

The conditions of a single-pass compilation.  Every filter value is compared as it is given, so that
a comparison with null is true of no row. -/

/-- The bounds of a range: the entries `from` and `to` of a map, or the two items of a list. -/
def boundsOf (v : Value) : Value × Value :=
  match v with
  | .map entries => (cellAt entries "from", cellAt entries "to")
  | .list [low, high] | .tuple [low, high] => (low, high)
  | _ => (.null, .null)

/-- The conditions that keep a column within a range; null is no bound. -/
def rangeClauses (c : ColumnRef) (v : Value) : List (Condition Value) :=
  let (low, high) := boundsOf v
  let bound (op : Comparison) (v : Value) : List (Condition Value) :=
    match v with
    | .null => []
    | v => [.compare op c v]
  bound .greaterOrEqual low ++ bound .lessOrEqual high

/-- The condition that a column holds one of some values. -/
def amongClause (c : ColumnRef) (v : Value) : Condition Value :=
  match v with
  | .list [] | .tuple [] => .never
  | .list vs | .tuple vs => .among c vs
  | v => .among c [v]

/-- The conditions of a filter on a column.  A filter that looks for a text writes its value out. -/
def filterClauses (c : ColumnRef) (op : FilterOperator) (v : Value) :
    Attempt (List (Condition Value)) :=
  match op with
  | .equals => .ok [.compare .equal c v]
  | .notEqual => .ok [.compare .unequal c v]
  | .contains => do return [.like c ("%" ++ (← v.written) ++ "%")]
  | .startsWith => do return [.like c ((← v.written) ++ "%")]
  | .endsWith => do return [.like c ("%" ++ (← v.written))]
  | .greaterThan => .ok [.compare .greater c v]
  | .lessThan => .ok [.compare .less c v]
  | .greaterThanOrEqual => .ok [.compare .greaterOrEqual c v]
  | .lessThanOrEqual => .ok [.compare .lessOrEqual c v]
  | .inRange => .ok (rangeClauses c v)
  | .blank => .ok [.isBlank c]
  | .notBlank => .ok [.notBlank c]
  | .among => .ok [amongClause c v]

/-- The condition that a column holds a text, without regard to small and capital letters. -/
def searchClause (c : ColumnRef) (term : String) : Condition Value :=
  .likeLower c ("%" ++ term ++ "%")

/-- The columns that a condition refers to. -/
def columnsOf {α : Type} : Condition α → List ColumnRef
  | .compare _ c _ | .like c _ | .likeLower c _ | .isNull c | .notNull c | .isBlank c
  | .notBlank c | .among c _ => [c]
  | .never => []
  | .both p q | .either p q => columnsOf p ++ columnsOf q

end AdminGrid.Direct
