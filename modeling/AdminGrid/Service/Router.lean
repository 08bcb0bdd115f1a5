import AdminGrid.Service.App

/-!
# Routes

A request is led by its path and method to what answers it: a table, the summary of recent
artifacts, or the state of the service.  Every failure becomes an answer with a status.
-/

namespace AdminGrid.Service

open Web

/-- What a request is answered with. -/
structure Response where
  status : Nat
  kind : String
  body : String
  retryAfter : Option String

/-- The kind of documents. -/
def documentKind : String := "application/json"

/-- An answer with a document. -/
def Response.document (body : String) : Response := ⟨200, documentKind, body, none⟩

/-- An answer that tells what is wrong. -/
def Response.refusal (status : Nat) (detail : String) (retryAfter : Option String) : Response :=
  ⟨status, documentKind,
    String.ofList ("\x7b\"detail\":".toList ++ Json.writeText detail ++ ['\x7d']),
    retryAfter⟩

/-- The answer to a failure. -/
def Response.ofFailure : Failure → Response
  | .status code detail retryAfter => .refusal code detail retryAfter
  | .unavailable => .refusal 503 "Data source unavailable" none
  | .security fault _ => .refusal 400 fault.message none
  | .invalid _ => .refusal 422 "Unprocessable Entity" none
  | _ => ⟨500, "text/plain", "Internal Server Error", none⟩

/-- What a path leads to. -/
inductive Place where
  | table (name : Option String)
  | summary
  | health

/-- The start of the paths of tables. -/
def tablesAt (settings : Settings) : List String :=
  Text.splitOn '/' (settings.text "API_V1_STR") ++ ["datatables"]

/-- What stands on a path after its start. -/
def afterStart : List String → List String → Option (List String)
  | [], rest => some rest
  | _ :: _, [] => none
  | s :: start, n :: names => if s = n then afterStart start names else none

/-- Names on a path, the last of them without a line feed at its end. -/
def chomped : List String → List String
  | [] => []
  | [last] => [(Text.dropTail? "\n" last).getD last]
  | n :: rest => n :: chomped rest

/-- The place that a path leads to, if it leads anywhere. -/
def place? (settings : Settings) (path : String) : Option Place :=
  let names := Text.splitOn '/' path
  if chomped names = ["", "health"] then some .health
  else if afterStart (tablesAt settings) (chomped names) = some [] then some (.table none)
  else match afterStart (tablesAt settings) names with
    | some [name] => if name = "" then none else some (.table (some name))
    | some rest => if chomped rest = ["inspector", "summary"] then some .summary else none
    | none => none

/-- The path that leads somewhere in place of one that does not: with a slash more or less at its
end. -/
def otherPath (path : String) : String :=
  if Text.endsWith "/" path then Text.stripEnd '/' path else path ++ "/"

/-- The place that a path leads to after all, and the path that leads there. -/
def placeOf? (settings : Settings) (path : String) : Option (Place × String) :=
  match place? settings path with
  | some place => some (place, path)
  | none =>
      if path = "/" then none
      else (place? settings (otherPath path)).map fun place => (place, otherPath path)

/-- The methods that a place answers. -/
def Place.methods : Place → List String
  | table _ => ["GET", "POST"]
  | summary | health => ["GET"]

/-- Counts a request of its caller. -/
def countRequest (m : Moment) (r : WebRequest) : Answering Unit := do
  let a ← get
  let (result, limiter, cache) := a.limiter.check a.cache m.outcomes m.ticks r.identity
  set { a with limiter := limiter, cache := cache }
  attempt result

/-- The state of the service. -/
def health (a : App) : Entries Value :=
  [("status", .text "ok"), ("mode", .text a.configuration.effectiveMode.name),
    ("local_db", .bool a.engine.isLocal)]

/-- A fault of a parameter in the query. -/
def queryFault {α : Type} (name : String) (kind : IssueKind) : Checked α :=
  ((Checked.fault kind).under (.name name)).under (.name "query")

/-- The number of rows that a summary is asked for. -/
def summaryLimit (r : WebRequest) : Checked Int :=
  match r.parameter? "limit" with
  | none => .good 20
  | some raw => match (Validation.integerText raw).under (.name "limit") with
    | .bad issues => (Checked.bad issues).under (.name "query")
    | .good n =>
        if n < 1 then queryFault "limit" .tooSmall
        else if 500 < n then queryFault "limit" .tooLarge
        else .good n

/-- Whether a summary is asked for as a text document. -/
def summaryFormat (r : WebRequest) : Checked Bool :=
  match r.parameter? "format" with
  | none => .good false
  | some format =>
      if format = "markdown" then .good true
      else if format = "json" then .good false
      else queryFault "format" .patternMismatch

/-- A failure inside an answer, which is none of the request's input. -/
def innerFailure : Failure → Failure
  | .invalid _ => .wrongKind
  | failure => failure

/-- Answers with the summary of recent artifacts. -/
def summaryAnswer (r : WebRequest) (limit : Int) (isText : Bool) : Answering Response := do
  let a ← get
  let config ← attempt (a.inspector.mapError innerFailure)
  let rows ← attempt (Inspector.summary config a.disk limit (r.parameter? "route"))
  if isText then return ⟨200, "text/markdown", ← attempt (Inspector.markdown rows), none⟩
  let status := Inspector.status config a.disk
  return .document (← attempt (Json.write .compact
    (.map [("status", .map status), ("rows", .list (rows.map Value.map))])))

/-- Answers a request that was led to a place. -/
def answerAt (m : Moment) (r : WebRequest) : Place → Answering Response
  | .health => do return .document (← attempt (Json.write .compact (.map (health (← get)))))
  | .summary => do
      countRequest m r
      let (limit, isText) ←
        attempt (Checked.app ((summaryLimit r).map Prod.mk) (summaryFormat r)).toAttempt
      summaryAnswer r limit isText
  | .table name => do
      match (← get).database with
      | none => throw .unavailable
      | some db => do
          countRequest m r
          return .document (← ExceptT.adapt innerFailure (compileTable db m r name))

/-- Answers a request. -/
def answer (m : Moment) (r : WebRequest) : Answering Response := do
  match placeOf? (← get).settings r.path with
  | none => throw (.status 404 "Not Found" none)
  | some (place, path) =>
      if place.methods.contains r.method then answerAt m { r with path := path } place
      else throw (.status 405 "Method Not Allowed" none)

/-- The answer to a request, and the service after it. -/
def App.handle (a : App) (m : Moment) (r : WebRequest) : Response × App :=
  match (answer m r).run.run a with
  | (.ok response, a) => (response, a)
  | (.error failure, a) => (.ofFailure failure, a)

end AdminGrid.Service
