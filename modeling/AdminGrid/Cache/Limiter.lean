import AdminGrid.Cache.Client

/-!
# The rate limit

Requests are counted for each client from its first one on, until a window of time is over.  The
server of the cache counts where it is reached; elsewhere the windows are kept here, and a window
that is over is forgotten at the next request of any client.
-/

namespace AdminGrid.Cache

/-- The requests of one client since a time. -/
structure Window where
  begun : Int
  count : Nat

/-- The limit, and the windows that are kept here. -/
structure Limiter where
  limit : Int
  /-- The length of a window in seconds. -/
  seconds : Int
  windows : Entries Window

namespace Limiter

/-- The parts of a second in which time is told. -/
def ticks : Int := 1000000

/-- Whether a window that began at a time is over. -/
def isOver (l : Limiter) (now begun : Int) : Bool := l.seconds * ticks ≤ now - begun

/-- The key under which a client is counted. -/
def clientKey (client : String) : String := "ratelimit:" ++ client

/-- Counts a request in the windows that are kept here. -/
def hitHere (l : Limiter) (now : Int) (key : String) : Nat × Limiter :=
  let kept := l.windows.filter fun e => !l.isOver now e.2.begun
  let found := (Entries.get? key kept).getD ⟨now, 0⟩
  let window : Window := if l.isOver now found.begun then ⟨now, 0⟩ else found
  (window.count + 1,
    { l with windows := Entries.put key ⟨window.begun, window.count + 1⟩ kept })

/-- Counts a request on the server: the count, unless a command fails, and what the server keeps. -/
def hitServer (l : Limiter) (s : State) (o : Outcomes) (key : String) : Option Int × State :=
  if !o.increment then (none, s)
  else match s.increment? key with
    | none => (none, s)
    | some (count, s) =>
        if count = 1 then
          if o.expire then (some count, s.expire key l.seconds) else (none, s)
        else (some count, s)

/-- Counts a request of a client. -/
def hit (l : Limiter) (s : State) (o : Outcomes) (now : Int) (client : String) :
    Int × Limiter × State :=
  let key := clientKey client
  let s := s.current o
  if s.isConnected then
    match l.hitServer s o key with
    | (some count, s) => (count, l, s)
    | (none, s) =>
        let (count, l) := l.hitHere now key
        (count, l, s)
  else
    let (count, l) := l.hitHere now key
    (count, l, s)

/-- The refusal of a client that made too many requests. -/
def refusal (l : Limiter) : Failure := .status 429 "Too many requests" (some (toString l.seconds))

/-- Counts a request of a client and refuses it beyond the limit. -/
def check (l : Limiter) (s : State) (o : Outcomes) (now : Int) (client : String) :
    Attempt Unit × Limiter × State :=
  let (count, l, s) := l.hit s o now client
  (if l.limit < count then .error l.refusal else .ok (), l, s)

/-- Forgets all windows that are kept here. -/
def reset (l : Limiter) : Limiter := { l with windows := [] }

end Limiter

end AdminGrid.Cache
