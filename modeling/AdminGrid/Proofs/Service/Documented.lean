import AdminGrid.Proofs.Formula.Range
import AdminGrid.Proofs.Request.HarmlessTrees
import AdminGrid.Proofs.Service.Staged
import AdminGrid.Service.App

/-!
# Documented answers

A request for a table is documented to be answered with a document, or to be refused as bad input,
as one for an unknown table, or because the data source does not answer.  It is, as long as the
numbers that it asks for and the rows that it is about stay within what cells, documents and links
can hold.
-/

namespace AdminGrid

open Store

namespace Request

theorem ends_checkIdentifier (field : String) (v : Value) :
    Ends IsSecurity (fun _ => True) (checkIdentifier field v) := by
  unfold checkIdentifier
  split
  · split
    · trivial
    · exact ⟨_, _, rfl⟩
  · exact ⟨_, _, rfl⟩

theorem descriptor_contextOf {params : Params} {r : Web.WebRequest} {d d' : TableDescriptor}
    (h : (Context.of params (Service.callerOf r d)).descriptor = some d') : d' = d := by
  unfold Context.of at h
  split at h
  · rename_i c hc
    obtain ⟨page, -, hc⟩ := bind_eq_ok.1 hc
    obtain ⟨filters, -, hc⟩ := bind_eq_ok.1 hc
    obtain ⟨filterPage, -, hc⟩ := bind_eq_ok.1 hc
    obtain ⟨roles, -, hc⟩ := bind_eq_ok.1 hc
    obtain ⟨roleGroup, -, hc⟩ := bind_eq_ok.1 hc
    obtain rfl := pure_eq_ok.1 hc
    exact (Option.some.inj h).symm
  · cases h

end Request

namespace Service

/-- The statuses that a refused request for a table is documented to have. -/
def documentedStatuses : List Nat := [400, 404, 503]

/-- Whether a failure is answered with a documented status. -/
def Documented (e : Failure) : Prop :=
  ∃ code ∈ documentedStatuses, ∃ detail, e = .status code detail none

/-- Whether the parts of a body that is a form in parts are read, or refused as bad input. -/
def PartsServed (r : Web.WebRequest) : Prop := Ends Documented (fun _ => True) r.parts

/-- Of the body, the query and the form, only a body that claims to be a document or a form in parts
can be refused. -/
theorem ends_params {r : Web.WebRequest} (hparts : PartsServed r) :
    Ends Documented (fun _ => True) r.params := by
  have hdocument : Ends Documented (fun _ => True)
      (Web.WebRequest.documentEntries r.body) := by
    unfold Web.WebRequest.documentEntries
    split
    · exact ⟨400, by decide, _, rfl⟩
    · trivial
  have hform (kind : String) : Ends Documented (fun _ => True) (r.formEntries kind) := by
    unfold Web.WebRequest.formEntries
    split
    · exact Ends.map hparts fun _ _ _ => trivial
    · split <;> trivial
  have hbody : Ends Documented (fun _ => True) r.bodyEntries := by
    unfold Web.WebRequest.bodyEntries
    dsimp only
    split
    · trivial
    · split
      · exact hdocument
      · split
        · exact hform _
        · trivial
  exact hbody.bind fun _ _ _ => trivial

theorem ends_tableName (pathName : Option String) (params : Request.Params) :
    Ends Documented (fun _ => True) ((tableName pathName params).mapError inputFailure) := by
  have hrefused : ∀ e, Request.IsSecurity e → Documented (inputFailure e) := by
    rintro _ ⟨fault, field, rfl⟩
    exact ⟨400, by decide, _, rfl⟩
  -- a missing name has its status already, a refused one is given its status here
  have hname : Ends (fun e => Request.IsSecurity e ∨ Documented e) (fun _ => True)
      (tableName pathName params) := by
    unfold tableName
    refine ((Request.ends_checkParams _).mono (fun _ he => .inl he) fun _ h => h).bind
      fun _ _ _ => ?_
    dsimp only
    split
    · exact Or.inr ⟨404, by decide, _, rfl⟩
    · exact (Request.ends_checkIdentifier _ _).mono (fun _ he => .inl he) fun _ h => h
  refine hname.mapError fun e he => ?_
  rcases he with he | ⟨code, hcode, detail, rfl⟩
  · exact hrefused e he
  · exact ⟨code, hcode, detail, rfl⟩

theorem documented_compileFailure {e : Failure} (h : e.Expected) :
    Documented (compileFailure e) := by
  cases e with
  | configuration fault => exact ⟨404, by decide, _, rfl⟩
  | unavailable => exact ⟨503, by decide, _, rfl⟩
  | _ => exact h.elim

/-- The relations that a request for a table is compiled with: those kept in the cache, or those
that the database suggests. -/
def catalogOf (db : Database) (m : Moment) (a : App) (name : String) :
    Attempt (List RelationSpec) :=
  match (Cache.get a.cache m.outcomes (catalogKey name)).1 with
  | .null => db.catalog [] name
  | kept => cachedCatalog kept

/-- Whether a request for a table goes beyond nothing that cells, documents and links can hold, and
whether the formulas of the table, and what is kept in the cache for it, can be read. -/
structure Servable (db : Database) (m : Moment) (a : App) (c : Request.Context)
    (d : TableDescriptor) : Prop where
  bounds : c.InBounds d
  short : ∀ f ∈ d.formulas, f.IsShort
  kept : (Cache.get a.cache m.outcomes (catalogKey d.name)).1 = .null ∨
    ∃ catalog, cachedCatalog (Cache.get a.cache m.outcomes (catalogKey d.name)).1 = .ok catalog
  direct : a.configuration.effectiveMode ≠ .staged →
    ∀ catalog base p, catalogOf db m a d.name = .ok catalog → db.table? d.name = some base →
      Direct.plan db base d catalog = .ok p → p.CanServe d
  lookups : a.configuration.effectiveMode = .staged → ∀ f ∈ c.filters, f.LooksUp
  staged : a.configuration.effectiveMode = .staged →
    ∀ catalog base r, catalogOf db m a d.name = .ok catalog → db.linkedTable? d.name = some base →
      Layout.resolveColumns (Staged.columnRequest base d
        (Layout.mergeRelations d.relations catalog)) = .ok r →
        (Staged.viewOf ⟨db, a.assets, catalog⟩ d base r).CanServe d

section Requests

variable {db : Database} {m : Moment} {a : App}

theorem runs_attempt {α : Type} {P : Failure → Prop} {x : Attempt α}
    (h : Ends P (fun _ => True) x) : Runs P (fun y b => x = .ok y ∧ b = a) (attempt x) a := by
  cases x with
  | error e => exact h
  | ok y => exact ⟨rfl, rfl⟩

/-- The relations of a table are found, and nothing but the cache changes. -/
theorem runs_relationCatalog (name : String)
    (h : Ends Failure.Expected (fun _ => True) (catalogOf db m a name)) :
    Runs Failure.Expected (fun catalog b =>
        catalogOf db m a name = .ok catalog ∧ ∃ cache, b = { a with cache := cache })
      (relationCatalog db m name) a := by
  unfold relationCatalog
  refine runs_get.bind fun _ b hb => ?_
  obtain ⟨rfl, rfl⟩ := hb
  unfold catalogOf at h ⊢
  generalize Cache.get b.cache m.outcomes (catalogKey name) = found at h ⊢
  obtain ⟨kept, cache⟩ := found
  refine (runs_modify _).bind fun _ next hnext => ?_
  obtain rfl : next = { b with cache := cache } := hnext
  cases kept with
  | null =>
      refine (runs_attempt h).bind fun catalog next hfound => ?_
      obtain ⟨hcatalog, rfl⟩ := hfound
      -- the relations are kept in the cache from now on
      exact (runs_modify _).bind fun _ next hnext => runs_pure ⟨hcatalog, _, hnext⟩
  | _ => exact (runs_attempt h).mono fun _ _ hfound => ⟨hfound.1, cache, hfound.2⟩

theorem runs_persist (run : Parity.Run) (c : Request.Context) :
    Runs Failure.Expected (fun _ _ => True) (persist m run c) a := by
  unfold persist
  refine runs_get.bind fun x b _ => ?_
  split
  · exact runs_pure trivial
  · exact trivial

theorem ends_catalogOf {c : Request.Context} {d : TableDescriptor} (h : Servable db m a c d) :
    Ends Failure.Expected (fun _ => True) (catalogOf db m a d.name) := by
  unfold catalogOf
  split
  · exact db.ends_catalog [] d.name
  · rename_i hkept
    rcases h.kept with hnull | ⟨catalog, hcatalog⟩
    · exact absurd hnull hkept
    · rw [hcatalog]
      trivial

/-- A request for a table of the registry ends in an answer that can be written, unless the table is
not there or the data source does not answer. -/
theorem runs_compileFor {r : Web.WebRequest} {params : Request.Params} {d : TableDescriptor}
    (h : Servable db m a (Request.Context.of params (callerOf r d)) d) :
    Runs Failure.Expected (fun answer _ => Writes 4 (.map answer)) (compileFor db m r params d)
      a := by
  unfold compileFor
  refine (runs_relationCatalog d.name (ends_catalogOf h)).bind fun catalog b hb => ?_
  obtain ⟨hcatalog, cache, rfl⟩ := hb
  refine runs_get.bind fun x b hx => ?_
  obtain ⟨rfl, rfl⟩ := hx
  have hrun : Ends Failure.Expected (fun run => Writes 4 (.map run.chosen))
      (Parity.run ⟨db, a.assets, catalog⟩ a.configuration.effectiveMode
        (Parity.tolerance .null (a.environment.get? "DT_DIFF_TOLERANCE"))
        (Request.Context.of params (callerOf r d))) := by
    refine Parity.ends_run (fun d' hd hmode => ?_) fun d' hd hmode => ?_
    · obtain rfl : d' = d := Request.descriptor_contextOf hd
      exact Direct.ends_compile hd h.bounds fun base p => h.direct hmode catalog base p hcatalog
    · obtain rfl : d' = d := Request.descriptor_contextOf hd
      exact Staged.ends_answer hd h.bounds (h.lookups hmode) fun base r =>
        h.staged hmode catalog base r hcatalog
  refine (runs_attempt (hrun.mono (fun _ he => he) fun _ _ => trivial)).bind fun run b hb => ?_
  obtain ⟨hok, rfl⟩ := hb
  rw [hok] at hrun
  exact (runs_persist run _).bind fun _ _ _ => runs_pure hrun

/-- A request for a table is answered with a document, or refused with a documented status, if it
and what it is about stay within bounds. -/
theorem ends_compileTable {r : Web.WebRequest} {pathName : Option String}
    (hparts : PartsServed r)
    (h : ∀ params name d, r.params = .ok params → tableName pathName params = .ok name →
      a.registry.find? name = some d →
        Servable db m a (Request.Context.of params (callerOf r d)) d) :
    Ends Documented (fun text => ∃ answer, Json.write .compact (.map answer) = .ok text)
      ((compileTable db m r pathName).run.run a).1 := by
  refine Runs.ends ?_
  unfold compileTable
  refine (runs_attempt (ends_params hparts)).bind fun params b hb => ?_
  obtain ⟨hparams, rfl⟩ := hb
  refine (runs_attempt (ends_tableName pathName params)).bind fun name c hc => ?_
  obtain ⟨hname, rfl⟩ := hc
  refine runs_get.bind fun _ b hb => ?_
  obtain ⟨rfl, rfl⟩ := hb
  cases hfind : b.registry.find? name with
  | none => exact runs_throw ⟨404, by decide, _, rfl⟩
  | some d =>
      have hservable := h params name d hparams (mapError_eq_ok.1 hname) hfind
      refine ((runs_compileFor hservable).adapt fun e => documented_compileFailure).bind
        fun answer next hwrites => ?_
      obtain ⟨text, htext⟩ := exists_write hwrites (by decide)
      rw [htext]
      exact runs_pure ⟨answer, htext⟩

end Requests

/-- One reading. -/
def readings : Table where
  name := "readings"
  columns := [⟨"value", "INTEGER", false, false, none⟩]
  keys := []
  rows := [[("value", .int 7)]]

/-- The descriptor of the readings, with their squares, without actions. -/
def readingColumns : TableDescriptor where
  name := "readings"
  columns := [⟨"value", none, false, false, true, true, false⟩]
  relations := []
  formulas := [⟨"square", none, ["value", "value"], "*", ⟨none, true⟩⟩]
  actions := ⟨false, [], [], []⟩
  filters := []
  paging := ⟨10, 100⟩
  formatRules := []
  clickable := false
  numbering := true
  urlTargetField := "id"
  softDeleteField := none
  mergedColumns := []
  fixedColumns := []
  orderBy := none

/-- A service of the readings alone, without a cache. -/
def readingsService : App where
  settings := ⟨[]⟩
  environment := []
  registry := [("readings", readingColumns)]
  database := some ⟨[readings]⟩
  assets := .none
  cache := .start false 60
  limiter := ⟨60, 60, []⟩
  disk := .empty
  engine := .start

/-- A moment at which nothing fails. -/
def calmMoment : Moment := ⟨⟨0, 0, "", "", "", "", [], []⟩, .good, 0⟩

/-- A request for the readings from a row on. -/
def readingsFrom (start : String) : Web.WebRequest where
  method := "GET"
  path := "/api/v1/datatables/readings"
  query := [("start", start)]
  headers := []
  host := none
  body := []
  parts := .ok []

theorem canServe_readings {base : Table} {p : Direct.Plan}
    (hbase : Database.table? ⟨[readings]⟩ readingColumns.name = some base)
    (hp : Direct.plan ⟨[readings]⟩ base readingColumns [] = .ok p) : p.CanServe readingColumns := by
  obtain rfl : readings = base := Option.some.inj hbase
  obtain rfl : (⟨readings, ["number_lists", "value", "square"], [],
      [("value", ⟨none, "value", .integer⟩)], .none⟩ : Direct.Plan) = p := Except.ok.inj hp
  refine ⟨by decide, fun j hj => absurd hj List.not_mem_nil, fun row hrow => ?_⟩
  obtain rfl := List.mem_singleton.1 hrow
  show readingColumns.CanShow [("value", .int 7)]
  constructor
  case writes => exact List.forall_mem_singleton.2 (writes_int (by decide))
  case formulas =>
    exact List.forall_mem_singleton.2
      ⟨.int 49, rfl, writes_int (by decide), fun _ hrule => absurd hrule List.not_mem_nil⟩
  case codes =>
    intro field hfield
    have hnone : Entries.get? field [("value", Value.int 7)] = none := by
      revert field
      decide
    rw [cellAt, hnone]
    exact ⟨none, rfl⟩
  case target => exact fun hclickable => absurd hclickable Bool.false_ne_true
  case ruled => exact fun _ hrule => absurd hrule List.not_mem_nil

/-- The first readings are answered with a document. -/
theorem ends_firstReadings : Ends Documented
    (fun text => ∃ answer, Json.write .compact (.map answer) = .ok text)
    ((compileTable ⟨[readings]⟩ calmMoment (readingsFrom "0") (some "readings")).run.run
      readingsService).1 := by
  refine ends_compileTable trivial ?_
  intro params name d hparams _ hfind
  obtain rfl : ([("start", .text "0")] : Request.Params) = params := Except.ok.inj hparams
  obtain rfl : readingColumns = d := by
    have hregistered := Entries.mem_of_get?_eq_some (Option.ite_none_left_eq_some.1 hfind).2
    exact (congrArg Prod.snd (List.mem_singleton.1 hregistered)).symm
  constructor
  case bounds =>
    constructor
    case filters =>
      have hnone : (Request.Context.of [("start", .text "0")]
          (callerOf (readingsFrom "0") readingColumns)).filters.isEmpty = true := by
        decide +kernel
      intro f hf
      rw [List.isEmpty_iff.1 hnone] at hf
      nomatch hf
    case anchors =>
      refine List.forall_mem_singleton.2 fun target htarget => ⟨none, ?_⟩
      obtain rfl : Anchor.name "value" = target := Option.some.inj htarget
      rfl
    case places => exact fun rule hrule => nomatch hrule
    case link => exact fun henabled => nomatch henabled
    all_goals decide +kernel
  case short => exact List.forall_mem_singleton.2 (by decide)
  case kept => exact .inl rfl
  case direct =>
    rintro - catalog base p hcatalog hbase hplan
    obtain rfl : [] = catalog := Except.ok.inj hcatalog
    exact canServe_readings hbase hplan
  case lookups => exact fun hmode => nomatch hmode
  case staged => exact fun hmode => nomatch hmode

/-- A request for a row beyond the numbers of the database ends in a failure that is not documented.
-/
theorem not_ends_farReadings : ¬ Ends Documented
    (fun text => ∃ answer, Json.write .compact (.map answer) = .ok text)
    ((compileTable ⟨[readings]⟩ calmMoment (readingsFrom "9223372036854775808")
      (some "readings")).run.run readingsService).1 := by
  -- failures are compared by their messages: one with a status has a message, this one has none
  have hfailed : ((compileTable ⟨[readings]⟩ calmMoment (readingsFrom "9223372036854775808")
      (some "readings")).run.run readingsService).1.mapError Failure.message = .error none := by
    decide +kernel
  generalize ((compileTable ⟨[readings]⟩ calmMoment (readingsFrom "9223372036854775808")
    (some "readings")).run.run readingsService).1 = outcome at hfailed
  cases outcome with
  | ok text => cases hfailed
  | error e =>
      rintro ⟨code, -, detail, rfl⟩
      cases hfailed

end Service

end AdminGrid
