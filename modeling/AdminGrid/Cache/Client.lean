import AdminGrid.Entries
import AdminGrid.Json.Read
import AdminGrid.Json.Write

/-!
# The cache

The cache keeps texts under keys on a server.  A client connects to the server when it is first
needed and is checked before every use.  Where no connection can be made, a stand-in takes the
place of the client that keeps nothing, until the cache is closed.  No failure of the server reaches
a caller.
-/

namespace AdminGrid.Cache

/-- What stands for the server. -/
inductive Client where
  | connected
  /-- A client that keeps nothing. -/
  | standIn
  deriving DecidableEq

/-- A text of the server, with the seconds that it has left to live, if these are limited. -/
structure Entry where
  text : String
  ttl : Option Int

/-- What becomes of the commands of one operation: whether each of them succeeds. -/
structure Outcomes where
  /-- The check of a client that is there. -/
  check : Bool
  /-- The first check of a new connection. -/
  connect : Bool
  /-- Setting a text; a server that answers may still refuse to keep it. -/
  set : Bool
  keep : Bool
  get : Bool
  increment : Bool
  expire : Bool

/-- All commands succeed. -/
def Outcomes.good : Outcomes := ⟨true, true, true, true, true, true, true⟩

/-- The connection to the server, and what the server keeps. -/
structure State where
  /-- Whether a connection is made at all. -/
  enabled : Bool
  /-- The seconds that a text has to live when nothing else is said. -/
  usualTtl : Int
  client : Option Client
  /-- Whether there is a pool of connections. -/
  pooled : Bool
  entries : Entries Entry
  /-- How many connections were tried. -/
  connections : Nat
  /-- How many times a client was checked. -/
  checks : Nat

namespace State

/-- No client and nothing kept. -/
def start (enabled : Bool) (usualTtl : Int) : State := ⟨enabled, usualTtl, none, false, [], 0, 0⟩

/-- A new connection, or the stand-in where none can be made. -/
def connectAnew (s : State) (o : Outcomes) : State :=
  if s.enabled then
    let s := { s with connections := s.connections + 1 }
    if o.connect then { s with client := some .connected, pooled := true }
    else { s with client := some .standIn, pooled := false }
  else { s with client := some .standIn }

/-- Connects to the server where there is no client yet. -/
def connect (s : State) (o : Outcomes) : State :=
  match s.client with
  | some _ => s
  | none => s.connectAnew o

/-- A client that was just checked. -/
def current (s : State) (o : Outcomes) : State :=
  match s.client with
  | none => s.connectAnew o
  | some .standIn => s
  | some .connected =>
      let s := { s with checks := s.checks + 1 }
      if o.check then s else s.connectAnew o

/-- Gives up the client and the connections. -/
def close (s : State) : State := { s with client := none, pooled := false }

/-- Whether the server is reached. -/
def isConnected (s : State) : Bool := s.client == some .connected

/-- Time passes: texts whose time to live is over are gone. -/
def elapse (s : State) (seconds : Int) : State :=
  { s with entries := s.entries.filterMap fun (key, entry) =>
      match entry.ttl with
      | none => some (key, entry)
      | some ttl =>
          if ttl ≤ seconds then none
          else some (key, { entry with ttl := some (ttl - seconds) }) }

/-- Counts a text up, from nothing to one; none where the text is no number. -/
def increment? (s : State) (key : String) : Option (Int × State) :=
  match s.entries.get? key with
  | none => some (1, { s with entries := s.entries.put key ⟨"1", none⟩ })
  | some entry => (Reading.int? entry.text).map fun n =>
      (n + 1, { s with entries := s.entries.put key { entry with text := toString (n + 1) } })

/-- Limits the time that a text has to live. -/
def expire (s : State) (key : String) (seconds : Int) : State :=
  match s.entries.get? key with
  | none => s
  | some entry => { s with entries := s.entries.put key { entry with ttl := some seconds } }

end State

/-- The key of a value on the server. -/
def serverKey (key : String) : String := "tablecraft:" ++ key

/-- Keeps a value under a key, for a number of seconds; whether it is kept. -/
def set (s : State) (o : Outcomes) (key : String) (v : Value) (expire : Option Int) :
    Bool × State :=
  let s := s.current o
  if !s.isConnected then (false, s)
  else match Json.write .compact v with
    | .error _ => (false, s)
    | .ok text =>
        if o.set && o.keep then
          (true, { s with
            entries := s.entries.put (serverKey key) ⟨text, some (expire.getD s.usualTtl)⟩ })
        else (false, s)

/-- The value under a key, null where there is none. -/
def get (s : State) (o : Outcomes) (key : String) : Value × State :=
  let s := s.current o
  if !s.isConnected || !o.get then (.null, s)
  else match s.entries.get? (serverKey key) with
    | none => (.null, s)
    | some entry => ((Json.read? entry.text).getD .null, s)

end AdminGrid.Cache
