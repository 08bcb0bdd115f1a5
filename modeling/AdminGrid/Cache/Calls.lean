import AdminGrid.Cache.Client

/-!
# The cache call by call

Here every command that an operation of the cache sends may fail on its own, and a failure runs up
to the nearest handler, as it does in the client: setting a pool of connections up, checking a
client, reading and writing a text, closing the client and releasing the pool.
-/

namespace AdminGrid.Cache

/-- What becomes of the commands that one operation may send. -/
structure Commands where
  /-- Setting up a pool of connections. -/
  pool : Attempt Unit
  /-- The first check of a new connection. -/
  connect : Attempt Unit
  /-- The check of a client that is there. -/
  check : Attempt Unit
  /-- Setting a text, and whether the server keeps it. -/
  set : Attempt Bool
  get : Attempt Unit
  /-- Closing a client. -/
  close : Attempt Unit
  /-- Releasing the connections of a pool. -/
  release : Attempt Unit

/-- All commands succeed. -/
def Commands.good : Commands := ⟨.ok (), .ok (), .ok (), .ok true, .ok (), .ok (), .ok ()⟩

/-- What an operation sees of its commands. -/
def Commands.outcomes (k : Commands) : Outcomes where
  check := k.check.isOk
  connect := k.pool.isOk && k.connect.isOk
  set := k.set.isOk
  keep := k.set.toOption.getD false
  get := k.get.isOk
  increment := true
  expire := true

/-- A computation on the cache, which may fail. -/
abbrev Calling (α : Type) := ExceptT Failure (StateM State) α

section

variable (k : Commands)

/-- Sets up a pool and a client on it. -/
def dial : Calling Client := do
  modify fun s => { s with connections := s.connections + 1 }
  MonadExcept.ofExcept k.pool
  modify fun s => { s with pooled := true }
  MonadExcept.ofExcept k.connect
  modify fun s => { s with client := some .connected }
  return .connected

/-- Releases the pool, if there is one, and has the stand-in take the place of the client. -/
def standBy : Calling Client := do
  if (← getThe State).pooled then
    tryCatch (MonadExcept.ofExcept k.release) fun _ => pure ()
    modify fun s => { s with pooled := false }
  modify fun s => { s with client := some .standIn }
  return .standIn

/-- The client that is there, or a new one. -/
def connectClient : Calling Client := do
  match (← getThe State).client with
  | some client => return client
  | none =>
      if (← getThe State).enabled then tryCatch (dial k) fun _ => standBy k
      else
        modify fun s => { s with client := some .standIn }
        return .standIn

/-- A client that was just checked. -/
def checkedClient : Calling Client := do
  match (← getThe State).client with
  | none => connectClient k
  | some .standIn => return .standIn
  | some .connected =>
      tryCatch (do
        modify fun s => { s with checks := s.checks + 1 }
        MonadExcept.ofExcept k.check
        return .connected)
        fun _ => do
          modify fun s => { s with client := none }
          connectClient k

/-- Gives up the client and the pool.  A client that cannot be closed is given up all the same, but
a pool that cannot be released is kept, and so is its client. -/
def closeClient : Calling Unit := do
  if (← getThe State).client = some .connected then
    tryCatch (MonadExcept.ofExcept k.close) fun _ => pure ()
  if (← getThe State).pooled then MonadExcept.ofExcept k.release
  modify fun s => { s with client := none, pooled := false }

/-- Keeps a value under a key, for a number of seconds; whether it is kept. -/
def setValue (key : String) (v : Value) (expire : Option Int) : Calling Bool := do
  match ← checkedClient k with
  | .standIn => return false
  | .connected =>
      tryCatch (do
        let text ← MonadExcept.ofExcept (Json.write .compact v)
        let kept ← MonadExcept.ofExcept k.set
        if kept then
          modify fun s => { s with
            entries := s.entries.put (serverKey key) ⟨text, some (expire.getD s.usualTtl)⟩ }
        return kept)
        fun _ => pure false

/-- The value under a key, null where there is none. -/
def getValue (key : String) : Calling Value := do
  match ← checkedClient k with
  | .standIn => return .null
  | .connected =>
      tryCatch (do
        MonadExcept.ofExcept k.get
        return match (← getThe State).entries.get? (serverKey key) with
          | none => .null
          | some entry => (Json.read? entry.text).getD .null)
        fun _ => pure .null

end

/-- An operation of the cache. -/
inductive Operation where
  /-- The client that is there, or a new one. -/
  | connect
  /-- A client that was just checked. -/
  | current
  | set (key : String) (v : Value) (expire : Option Int)
  | get (key : String)
  | close

/-- The operation as a computation. -/
def Operation.call (k : Commands) : Operation → Calling Unit
  | .connect => discard (connectClient k)
  | .current => discard (checkedClient k)
  | .set key v expire => discard (setValue k key v expire)
  | .get key => discard (getValue k key)
  | .close => closeClient k

/-- What an operation leaves, whether it succeeds or fails. -/
def State.after (s : State) (call : Operation × Commands) : State :=
  ((call.1.call call.2).run.run s).2

end AdminGrid.Cache
