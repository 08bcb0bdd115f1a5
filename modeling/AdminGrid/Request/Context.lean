import AdminGrid.Descriptor.Table
import AdminGrid.Request.Paging

/-!
# The context of a request

Everything that one request tells about the page it wants: the table, the page, the filters, the
route and the caller's roles.  A part that makes no sense leaves the context empty, so that building
it never fails.
-/

namespace AdminGrid.Request

/-- A table as a caller names it: by its descriptor, or by a document of any kind. -/
inductive Declared where
  | table (d : TableDescriptor)
  | document (v : Value)

/-- What one request tells. -/
structure Context where
  tableName : Option String
  descriptor : Option TableDescriptor
  paging : PagingRequest
  filters : List FilterSpec
  filterPage : Params
  route : RouteInfo
  roles : List String
  roleGroup : Option Int
  params : Params

/-- What a caller tells beside the request parameters. -/
structure Caller where
  declared : Declared
  filters : Value
  filterPage : Value
  route : RouteInfo
  roles : Value
  roleGroup : Value

/-- The context of a request of which only the parameters are known. -/
def Context.empty (params : Params) : Context :=
  ⟨none, none, .standard, [], [], .unknown, [], none, params⟩

/-- A text without the blanks around it, if anything else is there. -/
def named? : Value → Option String
  | .text s => if Text.strip s = "" then none else some (Text.strip s)
  | _ => none

/-- The name of a declared table: its own name, or the first of its columns. -/
def Declared.name? : Declared → Option String
  | table d => some d.name
  | document v =>
      match v.entries? with
      | none => none
      | some entries =>
          match named? (cellAt entries "name"), cellAt entries "columns" with
          | some name, _ => some name
          | none, .map ((first, _) :: _) => some first
          | none, _ => none

/-- The descriptor of a declared table.  A document is read under the name of the table, and without
its columns where they are a map. -/
def Declared.descriptor? (declared : Declared) (name : Option String) : Option TableDescriptor :=
  match declared, name with
  | table d, _ => some d
  | document (.map entries), some name =>
      if name = "" then none
      else
        let entries := match cellAt entries "columns" with
          | .map _ => entries.filter fun e => e.1 != "columns"
          | _ => entries
        (TableDescriptor.read (.map (Entries.put "name" (.text name) entries))).toOption
  | document _, _ => none

/-- A condition of a document, if it can be read.  One that cannot is written out for the log. -/
def filter? (item : Value) : Option (Attempt FilterSpec) :=
  match (FilterSpec.read item).toOption, item.written with
  | some f, _ => some (.ok f)
  | none, .ok _ => none
  | none, .error failure => some (.error failure)

/-- The filters of a request: conditions as documents, or values that fields must equal.  A
condition that cannot be read is left out. -/
def filtersOf (v : Value) : Attempt (List FilterSpec) :=
  if !v.truthy then .ok []
  else match v with
    | .map entries => .ok (entries.map fun (field, value) => ⟨field, .equals, value⟩)
    | .list items | .tuple items => (items.filterMap filter?).mapM id
    | .text _ | .bytes _ => .ok []
    | _ => .error .wrongKind

/-- The parts of a value that may be a pair. -/
def partsOf : Value → List Value
  | .list items | .tuple items => items
  | .text s => s.toList.map fun c => .text (String.singleton c)
  | .bytes bs => bs.map fun b => .int b.toNat
  | .map entries => entries.map fun (key, _) => .text key
  | _ => []

/-- A value that may be a pair, as an entry. -/
def entryOf (v : Value) : Attempt (String × Value) :=
  match partsOf v with
  | [.text key, value] => .ok (key, value)
  | _ => .error .wrongKind

/-- The entries of a map, or of a list of pairs. -/
def pageEntries (v : Value) : Attempt Params :=
  if !v.truthy then .ok []
  else match v with
    | .map entries => .ok entries
    | .list items | .tuple items => (items.mapM entryOf).map Entries.ofList
    | _ => .error .wrongKind

/-- The names of a caller's roles. -/
def rolesOf (v : Value) : Attempt (List String) :=
  if !v.truthy then .ok []
  else match v with
    | .list _ | .tuple _ | .text _ | .bytes _ | .map _ => (partsOf v).mapM Value.written
    | _ => .error .wrongKind

/-- The context of a request, unless a part of it makes no sense. -/
def Context.build (params : Params) (c : Caller) : Attempt Context := do
  let name := (named? (lookup params "difta" [.name "name"])).or c.declared.name?
  let descriptor := c.declared.descriptor? name
  let bounds := descriptor.map (·.paging)
  let page ← requestedPage params (bounds.map (·.maxLength))
    ((bounds.map (·.defaultLength)).getD 10)
  let filters ← filtersOf c.filters
  let filterPage ← pageEntries c.filterPage
  let roles ← rolesOf c.roles
  let roleGroup ← (Validation.optional Validation.integer c.roleGroup).toAttempt
  return {
    tableName := name
    descriptor := descriptor
    paging := page
    filters := filters ++ ((descriptor.map (·.filters)).getD [])
    filterPage := filterPage
    route := c.route
    roles := roles
    roleGroup := roleGroup
    params := settled params }

/-- The context of a request. -/
def Context.of (params : Params) (c : Caller) : Context :=
  match Context.build params c with
  | .ok context => context
  | .error _ => .empty (paramsAfterPage params)

/-- The name under which a route is reported. -/
def routeLabel (r : RouteInfo) : String :=
  let given (s : Option String) : Option String := s.filter (· != "")
  (((given r.routeName).or (given r.requestPath)).or (given r.routeUri)).getD "n/a"

end AdminGrid.Request
