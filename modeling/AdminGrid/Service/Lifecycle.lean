import AdminGrid.Service.App

/-!
# Start and end of the service

At its start the service makes its folders, connects to the cache and to the database, and starts
also where the database cannot be reached.  At its end it gives up both connections.
-/

namespace AdminGrid.Service.App

/-- The folders of the service. -/
def folders (s : Settings) : List Path := [.of (s.text "DATA_DIR"), .of (s.text "LOGS_DIR")]

/-- The service after its start. -/
def startUp (a : App) (w : Surroundings) (outcomes : Cache.Outcomes) : App :=
  { a with
    disk := { a.disk with folders := a.disk.folders ++ folders a.settings }
    cache := a.cache.connect outcomes
    engine := (a.engine.init w).2 }

/-- The service after its end. -/
def shutDown (a : App) : App := { a with cache := a.cache.close, engine := a.engine.dispose }

end AdminGrid.Service.App
