import AdminGrid.Failure
import AdminGrid.Inspector.Summary
import AdminGrid.Parity.Run
import AdminGrid.Registry
import AdminGrid.Request.Guard
import AdminGrid.Store.Catalog
import AdminGrid.Web.Request

/-!
# The answer to a request for a table

A request names a table, its parameters are checked, the relations of the table are found in the
cache or the database, and the answer is compiled in the mode in force.
-/

namespace AdminGrid.Service

/-! ## The engine of the database

The engine is made when it is first needed.  It leads to the primary database, or to the local one
where that is chosen or the primary one cannot be reached.  Which of the two was led to last is
known also after the engine is gone. -/

/-- What the databases are like, and which of them are wanted. -/
structure Surroundings where
  useLocal : Bool
  fallBack : Bool
  primaryWorks : Bool
  /-- Whether the file of the local database is there. -/
  localExists : Bool
  /-- Whether the folder of that file is there. -/
  localFolder : Bool

/-- The engine. -/
structure Engine where
  ready : Bool
  isLocal : Bool

/-- No engine yet. -/
def Engine.start : Engine := ⟨false, false⟩

namespace Engine

/-- Makes the engine where there is none. -/
def init (e : Engine) (w : Surroundings) : Attempt Unit × Engine :=
  if e.ready then (.ok (), e)
  else if w.useLocal then (.ok (), ⟨true, true⟩)
  else if w.primaryWorks then (.ok (), ⟨true, false⟩)
  else if w.fallBack && w.localExists then (.ok (), ⟨true, true⟩)
  else (.error .unavailable, e)

/-- Whether the database of an engine answers. -/
def answers (e : Engine) (w : Surroundings) : Bool := !e.isLocal || w.localFolder

/-- Runs a statement in a session: it has a result where the database knows its tables. -/
def query {α : Type} (e : Engine) (w : Surroundings) (result : Option α) : Attempt α × Engine :=
  match e.init w with
  | (.error failure, e) => (.error failure, e)
  | (.ok _, e) =>
      match result with
      | some a => (if e.answers w then .ok a else .error .unavailable, e)
      | none => (.error .unavailable, e)

/-- Gives up the engine. -/
def dispose (e : Engine) : Engine := { e with ready := false }

end Engine

/-! ## Answers -/

/-- All that requests are answered from. -/
structure App where
  settings : Settings
  environment : Entries String
  registry : Registry
  /-- The database, none where it cannot be reached. -/
  database : Option Store.Database
  assets : Cell.Assets
  cache : Cache.State
  limiter : Cache.Limiter
  disk : Disk
  engine : Engine

/-- The circumstances of one request. -/
structure Moment where
  occasion : Inspector.Occasion
  outcomes : Cache.Outcomes
  /-- The time in the parts of a second that the rate limit counts in. -/
  ticks : Int

/-- A computation that answers a request. -/
abbrev Answering (α : Type) := ExceptT Failure (StateM App) α

/-- An attempt that changes nothing. -/
def attempt {α : Type} (a : Attempt α) : Answering α :=
  match a with
  | .ok x => pure x
  | .error failure => throw failure

namespace App

/-- The switches in force. -/
def configuration (a : App) : Configuration := a.settings.configuration a.environment

/-- The configuration of the inspector in force. -/
def inspector (a : App) : Attempt Inspector.Config :=
  Inspector.Config.ofConfiguration a.configuration a.settings.inspectorDirectory

end App

/-- A failure of the compilation, as the status that a request is answered with. -/
def compileFailure : Failure → Failure
  | .configuration fault => .status 404 fault.message none
  | .unavailable => .status 503 "Data source unavailable" none
  | failure => failure

/-- A refusal of the input, as the status that a request is answered with. -/
def inputFailure : Failure → Failure
  | .security fault _ => .status 400 fault.message none
  | failure => failure

/-- The name of the table that a request asks for, if its input is harmless. -/
def tableName (pathName : Option String) (params : Request.Params) : Attempt String := do
  Request.checkParams (.map params)
  let name := Web.requestedTable pathName params
  if !name.truthy then throw (.status 404 "No table requested" none)
  Request.checkIdentifier "table_name" name

/-- The key under which the relations of a table are kept. -/
def catalogKey (name : String) : String := "relations:" ++ name

/-- The relations that were kept in the cache. -/
def cachedCatalog (v : Value) : Attempt (List RelationSpec) :=
  match v.items? with
  | some items => items.mapM fun item => (RelationSpec.read item).toAttempt
  | none => .error .wrongKind

/-- The relations of a table, found in the cache or in the database. -/
def relationCatalog (db : Store.Database) (m : Moment) (name : String) :
    Answering (List RelationSpec) := do
  let (cached, cache) := Cache.get (← get).cache m.outcomes (catalogKey name)
  modify fun a => { a with cache := cache }
  match cached with
  | .null => do
      let catalog ← attempt (db.catalog [] name)
      let value := Value.list (catalog.map (·.toValue))
      modify fun a =>
        { a with cache := (Cache.set a.cache m.outcomes (catalogKey name) value none).2 }
      return catalog
  | v => attempt (cachedCatalog v)

/-- Stores what a run leaves for the inspector. -/
def persist (m : Moment) (run : Parity.Run) (c : Request.Context) : Answering Unit := do
  match (← get).inspector with
  | .error _ => return
  | .ok config =>
      modify fun a => { a with disk := ((run.persist config m.occasion c).run a.disk).2 }

/-- What a request tells beside its parameters about the table that it asks for. -/
def callerOf (r : Web.WebRequest) (d : TableDescriptor) : Request.Caller where
  declared := .table d
  filters := .null
  filterPage := .null
  route := r.route
  roles := .ofTexts r.roles
  roleGroup := (r.roleGroup.map Value.int).getD .null

/-- Compiles the answer to a request for a table. -/
def compileFor (db : Store.Database) (m : Moment) (r : Web.WebRequest) (params : Request.Params)
    (d : TableDescriptor) : Answering (Entries Value) := do
  let catalog ← relationCatalog db m d.name
  let c := Request.Context.of params (callerOf r d)
  let a ← get
  let source : Source := ⟨db, a.assets, catalog⟩
  let limit := Parity.tolerance .null (a.environment.get? "DT_DIFF_TOLERANCE")
  let run ← attempt (Parity.run source a.configuration.effectiveMode limit c)
  persist m run c
  return run.chosen

/-- The document that answers a request for a table. -/
def compileTable (db : Store.Database) (m : Moment) (r : Web.WebRequest)
    (pathName : Option String) : Answering String := do
  let params ← attempt r.params
  let name ← attempt ((tableName pathName params).mapError inputFailure)
  match (← get).registry.find? name with
  | none => throw (.status 404 ("Unknown table: " ++ name) none)
  | some d => do
      let answer ← ExceptT.adapt compileFailure (compileFor db m r params d)
      attempt (Json.write .compact (.map answer))

end AdminGrid.Service
