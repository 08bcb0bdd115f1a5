import AdminGrid.Cache.Limiter
import AdminGrid.Descriptor.Answer
import AdminGrid.Entries
import AdminGrid.Json.Read
import AdminGrid.Request.Params
import AdminGrid.Text.Case
import AdminGrid.Text.Split
import AdminGrid.Text.Utf8

/-!
# Requests over the web

What a request tells: its parameters, where it came from, what its caller may do, and by which name
its caller is counted.
-/

namespace AdminGrid.Web

/-! ## Percent encoding

A character of a link may be written as the bytes of its encoding, each byte as a percent sign and
two hexadecimal digits.  In the pairs of a query and of a form a plus sign also stands for a blank.
Every byte of a form that is not written in this way is a character of its own. -/

/-- The bytes of ASCII characters, a percent sign and two hexadecimal digits standing for one. -/
def percentBytes : List Char → List UInt8
  | [] => []
  | [c] => [UInt8.ofNat c.toNat]
  | [c, d] => [UInt8.ofNat c.toNat, UInt8.ofNat d.toNat]
  | c :: a :: b :: rest =>
      match c, Json.hexValue? a, Json.hexValue? b with
      | '%', some high, some low => UInt8.ofNat (high * 16 + low) :: percentBytes rest
      | c, _, _ => UInt8.ofNat c.toNat :: percentBytes (a :: b :: rest)

/-- The characters of a list in runs of ASCII characters and single others. -/
def asciiRuns : List Char → List (List Char)
  | [] => []
  | c :: rest =>
      if 128 ≤ c.toNat then [c] :: asciiRuns rest
      else match asciiRuns rest with
        | (d :: run) :: runs =>
            if d.toNat < 128 then (c :: d :: run) :: runs else [c] :: (d :: run) :: runs
        | runs => [c] :: runs

/-- A run with its percent signs resolved. -/
def decodeRun (run : List Char) : List Char :=
  if run.all fun c => c.toNat < 128 then Text.readUtf8 (percentBytes run) else run

/-- A text with its percent signs resolved. -/
def decodePercent (s : String) : String := String.ofList ((asciiRuns s.toList).flatMap decodeRun)

/-- A part of a pair with its plus and percent signs resolved. -/
def decodePart (cs : List Char) : String :=
  decodePercent (String.ofList (cs.map fun c => if c = '+' then ' ' else c))

/-- A piece of a query as a pair; what has no sign between its parts has an empty value. -/
def decodePair (piece : List Char) : String × String :=
  match Text.cutFirstList? '=' piece with
  | some (name, value) => (decodePart name, decodePart value)
  | none => (decodePart piece, "")

/-- The pairs of a query. -/
def decodePairs (s : String) : List (String × String) :=
  ((Text.splitList '&' s.toList).filter fun piece => !piece.isEmpty).map decodePair

/-- The pieces of a form that something follows, and the last one.  Semicolons separate pieces after
the last ampersand, and stand for nothing at the front of a piece. -/
def formPieces (cs : List Char) : List (List Char) × List Char :=
  let parts := Text.splitList '&' cs
  let ending := Text.splitList ';' (parts.getLast?.getD [])
  (parts.dropLast.map (·.dropWhile (· == ';')) ++ ending.dropLast, ending.getLast?.getD [])

/-- The pairs of a form.  A name alone has an empty value, but is nothing at the end. -/
def decodeForm (body : List UInt8) : List (String × String) :=
  let (closed, last) := formPieces (body.map fun b => Char.ofNat b.toNat)
  let pieces :=
    closed.filter (fun piece => !piece.isEmpty) ++ if last.contains '=' then [last] else []
  pieces.map decodePair

/-! ## Requests -/

/-- A part of a form in parts: a text, or a file that comes with it. -/
inductive FormPart where
  | text (s : String)
  | file

/-- The text of a part that is no file. -/
def FormPart.text? : FormPart → Option String
  | text s => some s
  | file => none

/-- A request as the web server hands it on, which reads the parts of a form in parts. -/
structure WebRequest where
  method : String
  path : String
  query : List (String × String)
  headers : List (String × String)
  /-- The host of the caller, if it is known. -/
  host : Option String
  body : List UInt8
  /-- The parts of the body by name, where it is a form in parts and can be read as one. -/
  parts : Attempt (List (String × FormPart))

namespace WebRequest

/-- The first header of a name, in small or capital letters. -/
def header? (r : WebRequest) (name : String) : Option String :=
  (r.headers.find? fun e => Text.lower e.1 == name).map (·.2)

/-- The last value of a name in the query. -/
def parameter? (r : WebRequest) (name : String) : Option String :=
  (Entries.ofList r.query).get? name

/-- A text, unless it is empty. -/
def given (s : Option String) : Option String := s.filter (· != "")

/-- The path as a link shows it: without line ends and tabs, and without what starts a query or a
fragment. -/
def shownPath (path : String) : String :=
  let cs := path.toList.filter fun c => c != '\t' && c != '\r' && c != '\n'
  String.ofList ((cs.takeWhile (· != '#')).takeWhile (· != '?'))

/-- Where a request came from. -/
def route (r : WebRequest) : RouteInfo where
  referrer := r.header? "referer"
  routeUri := r.header? "x-route-uri"
  routeName := (given (r.header? "x-route-name")).or (r.parameter? "route_name")
  requestPath := some (shownPath r.path)

/-- The names of the routes that a caller may reach. -/
def roles (r : WebRequest) : List String :=
  ((Text.splitOn ',' ((r.header? "x-privileges").getD "")).map Text.strip).filter (· != "")

/-- The group of a caller's role. -/
def roleGroup (r : WebRequest) : Option Int := (r.header? "x-role-group").bind Reading.int?

/-- The name by which a caller is counted: the first host that a request was forwarded for, or else
the host of the caller. -/
def identity (r : WebRequest) : String :=
  match given (r.header? "x-forwarded-for") with
  | some hosts => Text.strip ((Text.splitOn ',' hosts).headD "")
  | none => r.host.getD "anonymous"

/-- The type of a body without the parameters behind it. -/
def mediaType (kind : String) : String :=
  match Text.cutFirst? ';' kind with
  | none => Text.lower (Text.strip kind)
  | some (first, _) => Text.strip (((Text.cutFirst? '=' first).map (·.1)).getD first)

/-- The entries of a body that is a document. -/
def documentEntries (body : List UInt8) : Attempt (Entries Value) :=
  match (if body = [] then some "{}" else Text.ofBytes? body).bind Json.read? with
  | none => .error (.status 400 "Malformed JSON body" none)
  | some v => .ok (v.entries?.getD [])

/-- The entries of a body that is a form.  Of entries with one name the last one counts, and files
are left out. -/
def formEntries (r : WebRequest) (kind : String) : Attempt (Entries Value) :=
  if mediaType kind = "multipart/form-data" then
    r.parts.map fun parts =>
      (Entries.ofList parts).filterMap fun (k, part) => part.text?.map fun s => (k, .text s)
  else if mediaType kind = "application/x-www-form-urlencoded" then
    .ok (Entries.ofList ((decodeForm r.body).map fun (k, v) => (k, .text v)))
  else .ok []

/-- The entries of the body of a request. -/
def bodyEntries (r : WebRequest) : Attempt (Entries Value) :=
  let kind := (r.header? "content-type").getD ""
  if r.method ≠ "POST" then .ok []
  else if Text.startsWith "application/json" kind then documentEntries r.body
  else if Text.startsWith "application/x-www-form-urlencoded" kind ||
      Text.startsWith "multipart/form-data" kind then r.formEntries kind
  else .ok []

/-- The parameters of a request: those of its query, and over them those of its body. -/
def params (r : WebRequest) : Attempt Request.Params := do
  let ofQuery := Entries.ofList (r.query.map fun (k, v) => (k, Value.text v))
  return ofQuery.merge (← r.bodyEntries)

end WebRequest

/-- The table that a request asks for: the one of its path, or the one that its parameters name. -/
def requestedTable (pathName : Option String) (params : Request.Params) : Value :=
  match WebRequest.given pathName with
  | some name => .text name
  | none =>
      let named := ((cellAt params "difta").get? "name").getD .null
      if named.truthy then .text named.cellText
      else
        let flat := cellAt params "difta[name]"
        if flat.truthy then flat else cellAt params "difta.name"

end AdminGrid.Web
