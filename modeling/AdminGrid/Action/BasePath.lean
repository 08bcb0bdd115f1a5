import AdminGrid.Descriptor.Answer
import AdminGrid.Failure
import AdminGrid.Text.Blank
import AdminGrid.Web.Url

/-!
# Base paths

The links of a row start from the base path of its table, which is taken from what is known of the
request: the page it came from, the route it matched, the name of the route, or its own path.
-/

namespace AdminGrid.Action

/-- The last segments that name an action and not a place. -/
def actionSegments : List String := ["index", "create", "edit", "show"]

/-- A path without one trailing segment that names an action. -/
def dropActionSegment (path : String) : String :=
  let trimmed := (Text.dropTail? "/" path).getD path
  match Text.cutLast? '/' trimmed with
  | some (before, last) => if actionSegments.contains last then before else path
  | none => path

/-- A path without a trailing action and slashes, none if nothing is left. -/
def stripActionSegment? (path : Option String) : Option String :=
  match path with
  | none => none
  | some path =>
      if path = "" then none
      else
        let rest := Text.stripEnd '/' (dropActionSegment (Text.strip path))
        if rest = "" then none else some rest

/-- The name of a route without its last part. -/
def routeBase (name : String) : String :=
  ((Text.cutLast? '.' name).map (·.1)).getD name

/-- The last part of the name of a route. -/
def routeSuffix (name : String) : String := Text.afterLast '.' name

/-- The base path from a path of the site. -/
def sitePath? (path : Option String) : Option String :=
  match path with
  | none => none
  | some path =>
      if path = "" then none
      else stripActionSegment? (some ("/" ++ Text.stripStart '/' path))

/-- The base path from the page that a request came from. -/
def referrerPath? (referrer : Option String) : Attempt (Option String) :=
  match referrer with
  | none => .ok none
  | some link =>
      if link = "" then .ok none
      else match Web.pathOf? link with
        | some path => .ok (stripActionSegment? (some path))
        | none => .error .badValue

/-- The base path from the name of a route. -/
def namedPath? (name : Option String) : Option String :=
  match name with
  | none => none
  | some name =>
      if name.toList.contains '.' then some ("/" ++ Text.replaceChar '.' "/" (routeBase name))
      else none

/-- The base path of a request, empty when nothing tells it. -/
def basePath (route : RouteInfo) : Attempt String := do
  let fromReferrer ← referrerPath? route.referrer
  return ((fromReferrer.or (sitePath? route.routeUri)).or
    ((namedPath? route.routeName).or (sitePath? route.requestPath))).getD ""

end AdminGrid.Action
