import AdminGrid.Descriptor.Filter

/-!
# Requests for a page and answers

The page that a request asks for, one rendered row, and the answer that a grid reads.
-/

namespace AdminGrid

open Validation

/-- The page that a request asks for. -/
structure PagingRequest where
  start : Int
  length : Int
  orderColumnIndex : Option Int
  orderDirection : Direction
  searchTerm : Option String
  draw : Int
  columnSearches : Entries String

/-- One rendered row: its cells in display order, and what the grid attaches to the row. -/
structure RowView where
  values : List (String × Value)
  rowAttributes : Entries String
  rowClass : Option String
  action : Option String

/-- The answer to a request for a page. -/
structure PagingResponse where
  draw : Int
  recordsTotal : Int
  recordsFiltered : Int
  data : List RowView
  extras : List (String × Value)

/-- What a run of both compilers left to be looked at later. -/
structure ParityDiagnostic where
  timestamp : String
  route : String
  tableName : String
  diffSummary : List (String × Value)
  requestContext : List (String × Value)

/-- Where a request came from, as far as it is known. -/
structure RouteInfo where
  referrer : Option String
  routeUri : Option String
  routeName : Option String
  requestPath : Option String

/-- A button of a row. -/
structure ActionButton where
  name : String
  color : String
  icon : String
  custom : Bool
  deriving DecidableEq

namespace PagingRequest

/-- The first page in the usual length. -/
def standard : PagingRequest := ⟨0, 10, none, .ascending, none, 0, []⟩

/-- Reads a page request from a document. -/
def read : Value → Checked PagingRequest :=
  record fun e =>
    PagingRequest.mk <$> withDefault "start" 0 integer e <*> withDefault "length" 10 integer e
      <*> withDefault "order_column_index" none (optional integer) e
      <*> withDefault "order_direction" .ascending (choice Direction.names) e
      <*> withDefault "search_term" none (optional text) e <*> withDefault "draw" 0 integer e
      <*> withDefault "column_searches" [] (map text) e

/-- A page request as a document. -/
def toValue (p : PagingRequest) : Value :=
  .map [("start", .int p.start), ("length", .int p.length),
    ("order_column_index", (p.orderColumnIndex.map Value.int).getD .null),
    ("order_direction", .text p.orderDirection.name), ("search_term", .ofText? p.searchTerm),
    ("draw", .int p.draw), ("column_searches", .ofTextMap p.columnSearches)]

end PagingRequest

namespace RowView

/-- Reads a rendered row from a document. -/
def read : Value → Checked RowView :=
  record fun e =>
    RowView.mk <$> withDefault "values" [] (map any) e
      <*> withDefault "row_attributes" [] (map text) e
      <*> withDefault "row_class" none (optional text) e
      <*> withDefault "action" none (optional text) e

/-- A rendered row as a document. -/
def toValue (r : RowView) : Value :=
  .map [("values", .map r.values), ("row_attributes", .ofTextMap r.rowAttributes),
    ("row_class", .ofText? r.rowClass), ("action", .ofText? r.action)]

/-- A rendered row as a grid reads it: its cells, and the entries that the grid knows by name. -/
def serialize (r : RowView) : List (String × Value) :=
  let withAction := match r.action with
    | some html => Entries.put "action" (.text html) r.values
    | none => r.values
  let withAttributes :=
    if r.rowAttributes.isEmpty then withAction
    else Entries.put "DT_RowAttr" (.ofTextMap r.rowAttributes) withAction
  match r.rowClass with
  | some name =>
      if name = "" then withAttributes
      else Entries.put "DT_RowClass" (.text name) withAttributes
  | none => withAttributes

end RowView

namespace PagingResponse

/-- Reads an answer from a document. -/
def read : Value → Checked PagingResponse :=
  record fun e =>
    PagingResponse.mk <$> withDefault "draw" 0 integer e <*> withDefault "records_total" 0 integer e
      <*> withDefault "records_filtered" 0 integer e <*> withDefault "data" [] (list RowView.read) e
      <*> withDefault "meta" [] (map any) e

/-- An answer as a document. -/
def toValue (r : PagingResponse) : Value :=
  .map [("draw", .int r.draw), ("records_total", .int r.recordsTotal),
    ("records_filtered", .int r.recordsFiltered), ("data", .list (r.data.map RowView.toValue)),
    ("meta", .map r.extras)]

/-- An answer as a grid reads it. -/
def toWire (r : PagingResponse) (withExtras : Bool) : List (String × Value) :=
  [("draw", .int r.draw), ("recordsTotal", .int r.recordsTotal),
    ("recordsFiltered", .int r.recordsFiltered),
    ("data", .list (r.data.map fun row => .map row.serialize))] ++
    (if withExtras then [("meta", .map r.extras)] else [])

end PagingResponse

namespace ParityDiagnostic

/-- Reads a diagnostic from a document. -/
def read : Value → Checked ParityDiagnostic :=
  record fun e =>
    ParityDiagnostic.mk <$> required "timestamp" text e <*> required "route" text e
      <*> required "table_name" text e <*> withDefault "diff_summary" [] (map any) e
      <*> withDefault "redacted_request_context" [] (map any) e

/-- A diagnostic as a document. -/
def toValue (d : ParityDiagnostic) : Value :=
  .map [("timestamp", .text d.timestamp), ("route", .text d.route),
    ("table_name", .text d.tableName), ("diff_summary", .map d.diffSummary),
    ("redacted_request_context", .map d.requestContext)]

end ParityDiagnostic

namespace RouteInfo

/-- A request of which nothing is known. -/
def unknown : RouteInfo := ⟨none, none, none, none⟩

/-- Reads a route from a document. -/
def read : Value → Checked RouteInfo :=
  record fun e =>
    RouteInfo.mk <$> withDefault "referrer" none (optional text) e
      <*> withDefault "route_uri" none (optional text) e
      <*> withDefault "route_name" none (optional text) e
      <*> withDefault "request_path" none (optional text) e

/-- A route as a document. -/
def toValue (r : RouteInfo) : Value :=
  .map [("referrer", .ofText? r.referrer), ("route_uri", .ofText? r.routeUri),
    ("route_name", .ofText? r.routeName), ("request_path", .ofText? r.requestPath)]

end RouteInfo

namespace ActionButton

/-- Reads a button from a document. -/
def read : Value → Checked ActionButton :=
  record fun e =>
    ActionButton.mk <$> required "name" text e <*> withDefault "color" "default" text e
      <*> withDefault "icon" "link" text e <*> withDefault "custom" false truth e

/-- A button as a document. -/
def toValue (b : ActionButton) : Value :=
  .map [("name", .text b.name), ("color", .text b.color), ("icon", .text b.icon),
    ("custom", .bool b.custom)]

end ActionButton

end AdminGrid
