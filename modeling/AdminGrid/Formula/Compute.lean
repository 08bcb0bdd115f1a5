import AdminGrid.Descriptor.Formula
import AdminGrid.Formula.Grammar
import AdminGrid.Value.Form

/-!
# Formula cells

The logic of a formula is an operator that joins its source fields from the left, the name of a
summary of those that are not empty, or an expression over them.  A formula that cannot be computed
leaves its cell empty.
-/

namespace AdminGrid.Formula

/-- The value of an expression under the cells of the names. -/
def evaluateExpression (expression : String) (cells : List (String × Value)) : Attempt Numeral :=
  let text := Text.strip expression
  match Expr.ofText? text with
  | some e => e.eval cells
  | none => .error (.format (.unreadable text))

/-- A way to summarise the source fields that are not empty. -/
inductive Summary where
  | sum | average | least | greatest | count | join
  deriving DecidableEq

/-- The names of the summaries. -/
def Summary.names : List (String × Summary) :=
  [("sum", sum), ("avg", average), ("min", least), ("max", greatest), ("count", count),
    ("concat", join)]

/-- A result as a cell, tidied up. -/
def tidyCell (n : Numeral) : Value := .ofNumeral n.tidy

/-- Turns the fault of an operation on numbers into a failure. -/
def lifted {α : Type} (result : Except ArithmeticFault α) : Attempt α :=
  match result with
  | .ok a => .ok a
  | .error fault => .error fault.toFailure

/-- The result of an operator that joins numbers from the left. -/
def joined (op : Operator) : List Numeral → Attempt (Option Numeral)
  | [] => .ok none
  | first :: rest => do return some (← rest.foldlM op.apply first)

/-- The cell of a summary of the cells that are not empty. -/
def summarise (formula : String) (summary : Summary) (present : List Value) : Attempt Value :=
  match summary with
  | .count => .ok (.int present.length)
  | .join => do return .text (" ".intercalate (← present.mapM Value.written))
  | summary =>
      if present.isEmpty then .error (.format (.noValues formula))
      else do
        let numbers ← present.mapM toNumber
        match summary, numbers with
        | .sum, _ => return tidyCell (← lifted (Numeral.sum numbers))
        | .average, _ =>
            let total ← lifted (Numeral.sum numbers)
            return tidyCell (← lifted (total.div (.int numbers.length)))
        | .least, first :: rest => return tidyCell (Numeral.least first rest)
        | .greatest, first :: rest => return tidyCell (Numeral.greatest first rest)
        | _, _ => .error (.format (.noValues formula))

/-- The cell of a formula in a row, or the failure that keeps it from being computed. -/
def compute (f : FormulaSpec) (row : List (String × Value)) : Attempt Value :=
  let logic := Text.strip f.logic
  match Entries.get? logic Operator.signs with
  | some op => do
      if f.sourceFields.isEmpty then .error (.format (.noSources f.name))
      let numbers ← (f.sourceFields.map (cellAt row)).mapM toNumber
      match ← joined op numbers with
      | some n => return tidyCell n
      | none => .error (.format (.noSources f.name))
  | none =>
      match Entries.get? (Text.lower logic) Summary.names with
      | some summary =>
          summarise f.name summary ((f.sourceFields.map (cellAt row)).filter fun v => !v.isBlank)
      | none => do
          let cells := Entries.ofList (f.sourceFields.map fun field => (field, cellAt row field))
          return tidyCell (← evaluateExpression logic cells)

/-- The cell of a formula in a row, the empty text where it cannot be computed. -/
def evaluate (f : FormulaSpec) (row : List (String × Value)) : Attempt Value :=
  match compute f row with
  | .error (.format _) => .ok (.text "")
  | result => result

end AdminGrid.Formula
