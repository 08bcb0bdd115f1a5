import AdminGrid.Proofs.Json.RoundTrip
import AdminGrid.Proofs.Request.ColumnKeys
import AdminGrid.Request.Context

/-!
# What a request keeps of its table

A request for a known table asks for a page by parameters of any kind.  A number that cannot be
read, an order that leads nowhere and a search that is blank each give way to their own default.
Two things can do more: the flat keys of columns, where they cannot be read, and a whole number of
too many digits, where a text is read.  Everything else that the request told is lost with them, the
table included.
-/

namespace AdminGrid.Request

/-- The whole number that a parameter denotes, if it denotes one. -/
def number? : Value → Option Int
  | .bool _ => none
  | .int n => some n
  | v => Reading.int? (Text.strip v.cellText)

theorem toInt_eq_getD (v : Value) (default : Int) : toInt v default = (number? v).getD default := by
  cases v <;> rfl

/-- An order by no column, by one that is no number and by a negative one are the same. -/
theorem orderIndex_eq_filter (params : Params) :
    orderIndex params =
      (number? (lookup params "order" [.index 0, .name "column"])).filter (0 ≤ ·) := by
  unfold orderIndex
  cases hcolumn : lookup params "order" [.index 0, .name "column"] with
  | null => decide
  | _ =>
      simp only [toInt_eq_getD]
      cases number? _ with
      | none => rfl
      | some n => by_cases hn : 0 ≤ n <;> simp [Option.filter, hn]

/-! ## What is read as a text -/

/-- The value that gives the direction of the order. -/
def directed (params : Params) : Value := lookup params "order" [.index 0, .name "dir"]

/-- The value that is searched for in all columns. -/
def searched (params : Params) : Value := lookup params "search" [.name "value"]

/-- The value that is searched for in one column, with the column's name. -/
def searchedColumn? (attributes : Params) : Option (String × Value) :=
  let data := cellAt attributes "data"
  let searchable := (Entries.get? "searchable" attributes).getD (.text "true")
  if !data.truthy || Text.lower searchable.cellText = "false" then none
  else
    let v := ((cellAt attributes "search").get? "value").getD .null
    if v.isBlank then none else some (data.cellText, v)

/-- The values that are searched for in single columns. -/
def searchedColumns (columns : List Params) : Entries Value :=
  Entries.ofList (columns.filterMap searchedColumn?)

/-- The direction that a value gives, read as a text. -/
def directionOf (v : Value) : Direction :=
  if v.truthy && Text.lower v.cellText = "desc" then .descending else .ascending

/-- The term that a value gives, read as a text. -/
def termOf (v : Value) : Option String :=
  let term := Text.strip v.cellText
  if v.isBlank || term = "" then none else some term

/-- The page that parameters ask for, with what they say about columns: every parameter by itself,
and a default for every one that says nothing. -/
def pageAsked (params : Params) (columns : List Params) (maxLength : Option Int)
    (defaultLength : Int) : PagingRequest where
  start := max 0 ((number? (cellAt params "start")).getD 0)
  length := pageLength ((number? (cellAt params "length")).getD defaultLength) maxLength
    defaultLength
  orderColumnIndex := (number? (lookup params "order" [.index 0, .name "column"])).filter (0 ≤ ·)
  orderDirection := directionOf (directed params)
  searchTerm := termOf (searched params)
  draw := max 0 ((number? (cellAt params "draw")).getD 0)
  columnSearches := (searchedColumns columns).map fun e => (e.1, e.2.cellText)

/-- Whether what a column says can be written out as far as it is read: whether the column is
searched, if it has a name, and its name and the value that is searched for, if there is one. -/
structure SearchWritable (attributes : Params) : Prop where
  searchable : (cellAt attributes "data").truthy = true →
    ((Entries.get? "searchable" attributes).getD (.text "true")).isWritable = true
  searched : ∀ e, searchedColumn? attributes = some e →
    e.2.isWritable = true ∧ (cellAt attributes "data").isWritable = true

/-- Whether what a request says can be read as far as it is read at all. -/
structure Readable (params : Params) : Prop where
  direction : (directed params).truthy = true → (directed params).isWritable = true
  search : (searched params).isWritable = true
  columns : ColumnsReadable params
  searches : ∀ columns, columnEntries params = .ok columns → ∀ c ∈ columns, SearchWritable c

section Texts

variable {params attributes : Params} {columns : List Params}

theorem orderDirection_eq_ok_iff {direction : Direction} :
    orderDirection params = .ok direction ↔
      ((directed params).truthy = true → (directed params).isWritable = true) ∧
        directionOf (directed params) = direction := by
  have hread : orderDirection params = if !(directed params).truthy then .ok .ascending
      else (directed params).written.map fun s =>
        if Text.lower s = "desc" then .descending else .ascending := rfl
  rw [hread, directionOf]
  cases (directed params).truthy with
  | false => simp
  | true => simp [map_eq_ok, Value.written_eq_ok_iff]

theorem searchTerm_eq_ok_iff {term : Option String} :
    searchTerm params = .ok term ↔
      (searched params).isWritable = true ∧ termOf (searched params) = term := by
  have hread : searchTerm params = if (searched params).isBlank then .ok none
      else (searched params).written.map fun s =>
        if Text.strip s = "" then none else some (Text.strip s) := rfl
  rw [hread, termOf]
  cases hblank : (searched params).isBlank with
  | true => simp [Value.isWritable_of_isBlank hblank]
  | false => simp [map_eq_ok, Value.written_eq_ok_iff]

/-- A column that can be written out is searched for what it asks for, and any other one takes the
whole request down. -/
theorem columnSearch?_cases (attributes : Params) :
    SearchWritable attributes ∧ columnSearch? attributes =
        (searchedColumn? attributes).map (fun e => .ok (e.1, e.2.cellText)) ∨
      ¬ SearchWritable attributes ∧ columnSearch? attributes = some (.error .badValue) := by
  have hiff : SearchWritable attributes ↔ _ ∧ _ := ⟨fun h => ⟨h.1, h.2⟩, fun h => ⟨h.1, h.2⟩⟩
  rw [hiff]
  unfold columnSearch? searchedColumn? Value.written
  generalize cellAt attributes "data" = data
  generalize (Entries.get? "searchable" attributes).getD (.text "true") = searchable
  generalize ((cellAt attributes "search").get? "value").getD .null = term
  by_cases hdata : data.truthy = true
  · by_cases hsearchable : searchable.isWritable = true
    · by_cases hskipped : Text.lower searchable.cellText = "false" ∨ term.isBlank = true
      · left
        rcases hskipped with hskipped | hskipped <;> simp [hdata, hsearchable, hskipped]
      · rw [not_or] at hskipped
        by_cases hterm : term.isWritable = true <;> by_cases hname : data.isWritable = true <;>
          simp [hdata, hsearchable, hskipped, hterm, hname, bind, Except.bind, pure, Except.pure]
    · exact Or.inr (by simp [hdata, hsearchable])
  · exact Or.inl (by simp [hdata])

/-- The columns are searched for what they ask for, if all of them can be written out. -/
theorem mapM_columnSearch?_eq_ok_iff {searches : List (String × String)} :
    (columns.filterMap columnSearch?).mapM id = .ok searches ↔
      (∀ c ∈ columns, SearchWritable c) ∧
        (columns.filterMap searchedColumn?).map (fun e => (e.1, e.2.cellText)) = searches := by
  induction columns generalizing searches with
  | nil => simp [pure_eq_ok]
  | cons c columns ih =>
      rw [List.forall_mem_cons]
      rcases columnSearch?_cases c with ⟨hwritable, hsearch⟩ | ⟨hwritable, hsearch⟩
      · cases hasked : searchedColumn? c with
        | none =>
            rw [hasked] at hsearch
            simp only [List.filterMap_cons, hsearch, hasked, Option.map_none, ih, hwritable,
              true_and]
        | some e =>
            rw [hasked] at hsearch
            simp only [List.filterMap_cons, hsearch, hasked, Option.map_some, mapM_cons_eq_ok, ih,
              hwritable, true_and, List.map_cons, id, Except.ok.injEq]
            constructor
            · rintro ⟨_, _, rfl, ⟨hall, rfl⟩, rfl⟩
              exact ⟨hall, rfl⟩
            · rintro ⟨hall, rfl⟩
              exact ⟨_, _, rfl, ⟨hall, rfl⟩, rfl⟩
      · refine iff_of_false (fun h => ?_) fun h => hwritable h.1.1
        rw [List.filterMap_cons, hsearch] at h
        obtain ⟨_, _, herror, -⟩ := mapM_cons_eq_ok.1 h
        cases herror

/-- Parameters that can be read ask for a page, and no others do. -/
theorem requestedPage_eq_ok_iff {maxLength : Option Int} {defaultLength : Int}
    {page : PagingRequest} :
    requestedPage params maxLength defaultLength = .ok page ↔
      Readable params ∧ ∃ columns, columnEntries params = .ok columns ∧
        pageAsked params columns maxLength defaultLength = page := by
  have hpage (columns : List Params) : pageAsked params columns maxLength defaultLength =
      { start := max 0 (toInt (cellAt params "start") 0)
        length := pageLength (toInt (cellAt params "length") defaultLength) maxLength defaultLength
        orderColumnIndex := orderIndex params
        orderDirection := directionOf (directed params)
        searchTerm := termOf (searched params)
        draw := max 0 (toInt (cellAt params "draw") 0)
        columnSearches := Entries.ofList
          ((columns.filterMap searchedColumn?).map fun e => (e.1, e.2.cellText)) } := by
    simp only [pageAsked, searchedColumns, toInt_eq_getD, orderIndex_eq_filter, Entries.ofList_map]
  unfold requestedPage
  simp only [bind_eq_ok, pure_eq_ok, orderDirection_eq_ok_iff, searchTerm_eq_ok_iff,
    mapM_columnSearch?_eq_ok_iff, hpage]
  constructor
  · rintro ⟨_, ⟨hdirection, rfl⟩, _, ⟨hsearch, rfl⟩, columns, hcolumns, _, ⟨hsearches, rfl⟩, rfl⟩
    refine ⟨⟨hdirection, hsearch, (columnEntries_eq_ok_iff params).1 ⟨columns, hcolumns⟩, ?_⟩,
      columns, hcolumns, rfl⟩
    intro others hothers
    obtain rfl := Except.ok.inj (hcolumns.symm.trans hothers)
    exact hsearches
  · rintro ⟨h, columns, hcolumns, rfl⟩
    exact ⟨_, ⟨h.direction, rfl⟩, _, ⟨h.search, rfl⟩, columns, hcolumns, _,
      ⟨h.searches columns hcolumns, rfl⟩, rfl⟩

/-- A page is asked for exactly if the parameters can be read. -/
theorem exists_requestedPage_iff {maxLength : Option Int} {defaultLength : Int} :
    (∃ page, requestedPage params maxLength defaultLength = .ok page) ↔ Readable params := by
  constructor
  · rintro ⟨page, hpage⟩
    exact (requestedPage_eq_ok_iff.1 hpage).1
  · intro h
    obtain ⟨columns, hcolumns⟩ := (columnEntries_eq_ok_iff params).2 h.columns
    exact ⟨_, requestedPage_eq_ok_iff.2 ⟨h, columns, hcolumns, rfl⟩⟩

theorem gather_of_columnKey?_eq_none {rest : Params} (h : ∀ e ∈ rest, columnKey? e.1 = none)
    (g : Gathered) : (gather g rest).2 = .ok g.columns := by
  induction rest generalizing g with
  | nil => rfl
  | cons e rest ih =>
      obtain ⟨key, v⟩ := e
      rw [List.forall_mem_cons] at h
      simp only [gather, h.1]
      exact ih h.2 _

theorem columnEntries_of_columnKey?_eq_none (hlisted : listedColumns? params = none)
    (h : ∀ e ∈ params, columnKey? e.1 = none) : columnEntries params = .ok [] := by
  unfold columnEntries
  simp only [hlisted, gather_of_columnKey?_eq_none h, bind, Except.bind, List.mergeSort_nil,
    List.map_nil, pure, Except.pure]

/-- Parameters without columns can be read, if what else is read as a text can be written out. -/
theorem readable_of_columnEntries_eq_nil (hcolumns : columnEntries params = .ok [])
    (hdirection : (directed params).isWritable = true)
    (hsearch : (searched params).isWritable = true) : Readable params where
  direction _ := hdirection
  search := hsearch
  columns := (columnEntries_eq_ok_iff params).1 ⟨[], hcolumns⟩
  searches columns h c hc := by
    obtain rfl := Except.ok.inj (hcolumns.symm.trans h)
    nomatch hc

end Texts

/-- What a caller who knows the table tells beside the parameters, without filters. -/
def tableCaller (d : TableDescriptor) (route : RouteInfo) (roles : List String)
    (roleGroup : Option Int) : Caller where
  declared := .table d
  filters := .null
  filterPage := .null
  route := route
  roles := .ofTexts roles
  roleGroup := (roleGroup.map Value.int).getD .null

/-- Whether a context is about a table and holds what each parameter says by itself, with a default
for every parameter that says nothing. -/
structure Context.Keeps (c : Context) (d : TableDescriptor) (params : Params) : Prop where
  descriptor : c.descriptor = some d
  tableName : c.tableName = some ((named? (lookup params "difta" [.name "name"])).getD d.name)
  page : ∃ columns, columnEntries params = .ok columns ∧
    c.paging = pageAsked params columns (some d.paging.maxLength) d.paging.defaultLength
  filters : c.filters = d.filters

/-- Whether no value of the parameters is nested so deeply that writing it out, one level inside the
other, could use up the stack.  The levels of the stack are no part of the definitions here. -/
def Shallow (params : Params) : Prop := ∀ e ∈ params, Json.nesting e.2 ≤ 200

section Table

variable (params : Params) (d : TableDescriptor) (route : RouteInfo) (roles : List String)
  (roleGroup : Option Int)

theorem rolesOf_ofTexts : rolesOf (.ofTexts roles) = .ok roles := by
  unfold rolesOf
  by_cases hroles : roles = []
  · subst hroles
    rfl
  · have htruthy : (Value.ofTexts roles).truthy = true := by
      simpa [Value.ofTexts, Value.truthy] using hroles
    have hparts : (partsOf (Value.ofTexts roles)).mapM Value.written = .ok roles := by
      rw [mapM_eq_ok, Value.ofTexts, partsOf, List.forall₂_map_left_iff, List.forall₂_same]
      exact fun role _ => rfl
    rw [htruthy]
    exact hparts

theorem read_roleGroup : (Validation.optional Validation.integer
    ((roleGroup.map Value.int).getD .null)).toAttempt = .ok roleGroup := by
  cases roleGroup <;> rfl

/-- The context for a table is lacking only where the page is. -/
theorem build_tableCaller : Context.build params (tableCaller d route roles roleGroup) =
    (requestedPage params (some d.paging.maxLength) d.paging.defaultLength).map fun page =>
      { tableName := (named? (lookup params "difta" [.name "name"])).or (some d.name)
        descriptor := some d
        paging := page
        filters := d.filters
        filterPage := []
        route := route
        roles := roles
        roleGroup := roleGroup
        params := settled params } := by
  have hroles := rolesOf_ofTexts roles
  have hgroup := read_roleGroup roleGroup
  unfold Context.build tableCaller
  simp only [Declared.name?, Declared.descriptor?, Option.map_some, Option.getD_some, filtersOf,
    pageEntries, Value.truthy, hroles, hgroup]
  cases requestedPage params (some d.paging.maxLength) d.paging.defaultLength <;> rfl

/-- A request that can be read keeps its table, and takes each parameter by itself. -/
theorem keeps_of_readable (h : Readable params) :
    (Context.of params (tableCaller d route roles roleGroup)).Keeps d params := by
  obtain ⟨page, hpage⟩ :=
    (@exists_requestedPage_iff params (some d.paging.maxLength) d.paging.defaultLength).2 h
  obtain ⟨-, columns, hcolumns, rfl⟩ := requestedPage_eq_ok_iff.1 hpage
  have hbuild := build_tableCaller params d route roles roleGroup
  rw [hpage] at hbuild
  unfold Context.of
  rw [hbuild]
  exact {
    descriptor := rfl
    tableName := by cases named? (lookup params "difta" [.name "name"]) <;> rfl
    page := ⟨columns, hcolumns, rfl⟩
    filters := rfl }

/-- Nothing but the parameters is left of any other request. -/
theorem eq_empty_of_not_readable (h : ¬ Readable params) :
    Context.of params (tableCaller d route roles roleGroup) = .empty (paramsAfterPage params) := by
  have hbuild := build_tableCaller params d route roles roleGroup
  unfold Context.of
  cases hpage : requestedPage params (some d.paging.maxLength) d.paging.defaultLength with
  | ok page => exact absurd (exists_requestedPage_iff.1 ⟨page, hpage⟩) h
  | error failure =>
      rw [hbuild, hpage]
      rfl

/-- A request for a table keeps the table, and takes each parameter by itself, exactly if what it
says can be read; otherwise nothing but the parameters is left of it. -/
theorem context_keeps_iff : Shallow params →
    ((Context.of params (tableCaller d route roles roleGroup)).Keeps d params ↔ Readable params) ∧
    (Context.of params (tableCaller d route roles roleGroup) = .empty (paramsAfterPage params) ↔
      ¬ Readable params) := by
  intro _
  have hempty : ¬ (Context.empty (paramsAfterPage params)).Keeps d params := fun h =>
    nomatch h.descriptor
  by_cases hreadable : Readable params
  · have hkeeps := keeps_of_readable params d route roles roleGroup hreadable
    exact ⟨iff_of_true hkeeps hreadable,
      iff_of_false (fun h => hempty (h ▸ hkeeps)) (not_not_intro hreadable)⟩
  · have hnothing := eq_empty_of_not_readable params d route roles roleGroup hreadable
    exact ⟨iff_of_false (fun h => hempty (hnothing ▸ h)) hreadable,
      iff_of_true hnothing hreadable⟩

end Table

/-- A table of orders in the grid. -/
def ordersTable : TableDescriptor where
  name := "orders"
  columns := []
  relations := []
  formulas := []
  actions := .standard
  filters := []
  paging := .standard
  formatRules := []
  clickable := false
  numbering := false
  urlTargetField := "id"
  softDeleteField := some "deleted_at"
  mergedColumns := []
  fixedColumns := []
  orderBy := none

/-- The parameters of a request for a third page, in an order that leads nowhere and with a column
that is no object. -/
def thirdPage : Params :=
  [("start", .text " 20 "), ("order[0][column]", .text "first"), ("search[value]", .text " Ann "),
    ("columns", .list [.text "id"])]

/-- A request with a part that cannot be understood keeps its table and the rest of the page. -/
theorem context_keeps_iff_thirdPage : Shallow thirdPage ∧
    (Context.of thirdPage (tableCaller ordersTable .unknown [] none)).Keeps ordersTable
      thirdPage := by
  have hshallow : Shallow thirdPage := by
    simp [Shallow, thirdPage, Json.nesting, Json.nestingOfItems]
  refine ⟨hshallow, (context_keeps_iff thirdPage ordersTable .unknown [] none hshallow).1.2 ?_⟩
  exact (@exists_requestedPage_iff thirdPage none 10).1 ⟨_, rfl⟩

/-- The parameters of a request that gives the search of its first column once as a text and then by
its value. -/
def searchedTwice : Params :=
  [("columns[0][search]", .text "plain"), ("columns[0][search][value]", .text "v")]

/-- A search that takes no value makes the request lose its table. -/
theorem context_loses_orders :
    (Context.of searchedTwice (tableCaller ordersTable .unknown [] none)).descriptor = none ∧
      (Context.of searchedTwice (tableCaller ordersTable .unknown [] none)).tableName = none :=
  ⟨rfl, rfl⟩

end AdminGrid.Request
