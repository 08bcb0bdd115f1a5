import AdminGrid.Descriptor.Column

/-!
# Filters, formats and order

The conditions on rows, the number formats of columns, the page length and the order of a table.
-/

namespace AdminGrid

open Validation

/-- How a filter compares a column with its value. -/
inductive FilterOperator where
  | equals | notEqual | contains | startsWith | endsWith | greaterThan | lessThan
  | greaterThanOrEqual | lessThanOrEqual | inRange | blank | notBlank | among
  deriving DecidableEq

/-- A condition on rows. -/
structure FilterSpec where
  field : String
  operator : FilterOperator
  value : Value

/-- How the numbers of a column are written. -/
structure FormatRule where
  field : String
  decimals : Int
  separator : String
  formatType : Option String
  deriving DecidableEq

/-- The page length of a table. -/
structure PagingConfig where
  defaultLength : Int
  maxLength : Int
  deriving DecidableEq

/-- The direction of an order. -/
inductive Direction where
  | ascending | descending
  deriving DecidableEq

/-- The order of a table's rows. -/
structure OrderBy where
  column : String
  direction : Direction
  deriving DecidableEq

namespace FilterOperator

/-- The names of the operators. -/
def names : List (String × FilterOperator) :=
  [("equals", equals), ("notEqual", notEqual), ("contains", contains), ("startsWith", startsWith),
    ("endsWith", endsWith), ("greaterThan", greaterThan), ("lessThan", lessThan),
    ("greaterThanOrEqual", greaterThanOrEqual), ("lessThanOrEqual", lessThanOrEqual),
    ("inRange", inRange), ("blank", blank), ("notBlank", notBlank), ("in", among)]

/-- The name of an operator. -/
def name (op : FilterOperator) : String :=
  ((names.find? (·.2 == op)).map (·.1)).getD ""

end FilterOperator

namespace FilterSpec

/-- Reads a filter from a document. -/
def read : Value → Checked FilterSpec :=
  record fun e =>
    FilterSpec.mk <$> required "field" text e
      <*> withDefault "operator" .equals (choice FilterOperator.names) e
      <*> withDefault "value" .null any e

/-- A filter as a document. -/
def toValue (f : FilterSpec) : Value :=
  .map [("field", .text f.field), ("operator", .text f.operator.name), ("value", f.value)]

end FilterSpec

namespace FormatRule

/-- Reads a format from a document. -/
def read : Value → Checked FormatRule :=
  record fun e =>
    FormatRule.mk <$> required "field" text e <*> withDefault "decimals" 0 integer e
      <*> withDefault "separator" "." text e <*> withDefault "format_type" none (optional text) e

/-- A format as a document. -/
def toValue (r : FormatRule) : Value :=
  .map [("field", .text r.field), ("decimals", .int r.decimals), ("separator", .text r.separator),
    ("format_type", .ofText? r.formatType)]

end FormatRule

namespace PagingConfig

/-- The page length of a table that sets none. -/
def standard : PagingConfig := ⟨10, 1000⟩

/-- Reads a page length from a document. -/
def read : Value → Checked PagingConfig :=
  record fun e =>
    PagingConfig.mk <$> withDefault "default_length" 10 integer e
      <*> withDefault "max_length" 1000 integer e

/-- A page length as a document. -/
def toValue (p : PagingConfig) : Value :=
  .map [("default_length", .int p.defaultLength), ("max_length", .int p.maxLength)]

end PagingConfig

namespace Direction

/-- The names of the directions. -/
def names : List (String × Direction) := [("asc", ascending), ("desc", descending)]

/-- The name of a direction. -/
def name : Direction → String
  | ascending => "asc"
  | descending => "desc"

end Direction

namespace OrderBy

/-- Reads a direction in small or capital letters. -/
def readDirection : Value → Checked Direction
  | .text s => choice Direction.names (.text (Text.lower s))
  | v => choice Direction.names v

/-- Reads an order from a document. -/
def read : Value → Checked OrderBy :=
  record fun e =>
    OrderBy.mk <$> required "column" text e <*> withDefault "direction" .ascending readDirection e

/-- An order as a document. -/
def toValue (o : OrderBy) : Value :=
  .map [("column", .text o.column), ("direction", .text o.direction.name)]

end OrderBy

end AdminGrid
