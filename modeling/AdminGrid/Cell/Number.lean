import AdminGrid.Descriptor.Filter
import AdminGrid.Formula.Expression
import AdminGrid.Number.Fixed

/-!
# Numbers in cells

A number is shown with its whole digits in groups of three.  Where the separator of a rule is a
point, the point stands between the groups and a comma before the decimal places; with any other
separator it is the other way round.
-/

namespace AdminGrid.Cell

/-- The most decimal places that a number can be shown with. -/
def maxPlaces : Int := 2147483647

/-- The most decimal places that can be asked for at all. -/
def maxAsked : Int := 9223372036854775807

/-- The marks between groups and before the decimal places. -/
def marksOf (separator : String) : Char × Char :=
  if separator = "." then ('.', ',') else (',', '.')

/-- The number of decimal places that a rule asks for. -/
def placesOf (decimals : Int) (formatType : Option String) : Int :=
  if formatType = some "decimal" || 0 < decimals then decimals else 0

/-- A number as a rule shows it; an empty cell stays empty. -/
def formatNumber (cell : Value) (decimals : Int) (separator : String)
    (formatType : Option String) : Attempt (Option String) :=
  if cell.isBlank then .ok none
  else do
    let number ← Formula.toNumber cell
    let places := placesOf decimals formatType
    if places < 0 || maxAsked < places then .error .badValue
    else match number.toFloat with
      | .error fault => .error fault.toFailure
      | .ok x =>
          if maxPlaces < places then .error .badValue
          else
            let (thousands, point) := marksOf separator
            return some (x.groupedText thousands point places.toNat)

/-- A cell as a rule shows it. -/
def applyRule (rule : FormatRule) (cell : Value) : Attempt Value := do
  return .ofText? (← formatNumber cell rule.decimals rule.separator rule.formatType)

end AdminGrid.Cell
