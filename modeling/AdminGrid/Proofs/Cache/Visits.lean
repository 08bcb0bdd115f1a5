import AdminGrid.Cache.Limiter
import AdminGrid.Proofs.Entries

/-!
# Visits to the limiter

Clients come one after another.  Each of them comes at a time by the clock of the process, after
some seconds on the clock of the server, and each command to the server may fail.  What one visit
does to the windows that are kept here and to the counters on the server is settled first; runs are
visits one after another.
-/

namespace AdminGrid.Cache

/-- A request that is counted. -/
structure Visit where
  client : String
  /-- The time by the clock of the process. -/
  now : Int
  /-- The seconds that have passed on the server since the visit before. -/
  waited : Nat
  outcomes : Outcomes

/-- Where clients are counted: the limiter, and the cache whose server counts while it is there. -/
structure Desk where
  limiter : Limiter
  cache : State

section OneRequest

variable (l : Limiter) (s : State) (o : Outcomes) (now : Int) (key : String)

/-- The window of a client after a request, from the window that was kept for it. -/
def Limiter.advance (w : Option Window) : Window :=
  match w.filter fun w => !l.isOver now w.begun with
  | some w => ⟨w.begun, w.count + 1⟩
  | none => ⟨now, 1⟩

/-- The windows that are not over. -/
def Limiter.openWindows : Entries Window := l.windows.filter fun e => !l.isOver now e.2.begun

/-- Counts a request on the server where it is reached. -/
def Limiter.tryServer : Option Int × State :=
  let s := s.current o
  if s.isConnected then l.hitServer s o key else (none, s)

variable {l} {now}

theorem advance_of_open {w : Window} (h : l.isOver now w.begun = false) :
    l.advance now (some w) = ⟨w.begun, w.count + 1⟩ := by
  simp [Limiter.advance, Option.filter_some, h]

theorem advance_of_over {w : Window} (h : l.isOver now w.begun = true) :
    l.advance now (some w) = ⟨now, 1⟩ := by
  simp [Limiter.advance, Option.filter_some, h]

/-- A request either goes into the window that is kept or begins one. -/
theorem begun_advance (w : Option Window) :
    (l.advance now w).begun = now ∨ ∃ kept, w = some kept ∧ (l.advance now w).begun = kept.begun := by
  cases w with
  | none => exact Or.inl rfl
  | some kept =>
      cases hover : l.isOver now kept.begun with
      | false => exact Or.inr ⟨kept, rfl, by rw [advance_of_open hover]⟩
      | true => exact Or.inl (by rw [advance_of_over hover])

variable (now)

theorem isOver_hitHere : (l.hitHere now key).2.isOver = l.isOver := rfl

theorem hitHere_eq (h : l.windows.keys.Nodup) :
    l.hitHere now key =
      ((l.advance now (l.windows.get? key)).count,
        { l with windows := (l.openWindows now).put key (l.advance now (l.windows.get? key)) }) := by
  have hkept : (l.openWindows now).get? key =
      (l.windows.get? key).filter fun w => !l.isOver now w.begun :=
    Entries.get?_filter h key fun w => !l.isOver now w.begun
  unfold Limiter.hitHere Limiter.advance
  rw [← hkept]
  -- a window that was kept is open, so the limiter's second look at its begin changes nothing
  unfold Limiter.openWindows at hkept ⊢
  cases hfound : Entries.get? key (l.windows.filter fun e => !l.isOver now e.2.begun) with
  | none => simp [hfound]
  | some w =>
      rw [hfound] at hkept
      have hopen : l.isOver now w.begun = false := by
        simpa using (Option.filter_eq_some_iff.1 hkept.symm).2
      simp [hfound, hopen]

/-- A request changes the window of its client and drops the windows that are over. -/
theorem get?_windows_hitHere (h : l.windows.keys.Nodup) (other : String) :
    (l.hitHere now key).2.windows.get? other =
      if key = other then some (l.advance now (l.windows.get? key))
      else (l.windows.get? other).filter fun w => !l.isOver now w.begun := by
  have hkept : (l.openWindows now).get? other =
      (l.windows.get? other).filter fun w => !l.isOver now w.begun :=
    Entries.get?_filter h other fun w => !l.isOver now w.begun
  rw [hitHere_eq now key h, Entries.get?_put, hkept]

theorem nodup_windows_hitHere (h : l.windows.keys.Nodup) :
    (l.hitHere now key).2.windows.keys.Nodup := by
  rw [hitHere_eq now key h]
  exact Entries.nodup_keys_put key _ (h.sublist (List.filter_sublist.map _))

/-- A request that the server does not count is counted here. -/
theorem hit_eq (client : String) :
    l.hit s o now client =
      match l.tryServer s o (Limiter.clientKey client) with
      | (some count, s) => (count, l, s)
      | (none, s) =>
          ((l.hitHere now (Limiter.clientKey client)).1,
            (l.hitHere now (Limiter.clientKey client)).2, s) := by
  unfold Limiter.hit Limiter.tryServer
  dsimp only
  generalize (s.current o).isConnected = connected
  rcases l.hitServer (s.current o) o (Limiter.clientKey client) with ⟨_ | count, s⟩ <;>
    cases connected <;> rfl

@[simp]
theorem clientKey_inj {client other : String} :
    Limiter.clientKey client = Limiter.clientKey other ↔ client = other := by
  simp [Limiter.clientKey]

end OneRequest

namespace Desk

/-- Tries to count a visit on the server. -/
def tryServer (d : Desk) (v : Visit) : Option Int × State :=
  d.limiter.tryServer (d.cache.elapse v.waited) v.outcomes (Limiter.clientKey v.client)

/-- Counts a visit. -/
def visit (d : Desk) (v : Visit) : Int × Desk :=
  let (count, l, s) := d.limiter.hit (d.cache.elapse v.waited) v.outcomes v.now v.client
  (count, ⟨l, s⟩)

/-- Counts a visit and refuses it beyond the limit. -/
def answer (d : Desk) (v : Visit) : Attempt Unit × Desk :=
  let (answer, l, s) := d.limiter.check (d.cache.elapse v.waited) v.outcomes v.now v.client
  (answer, ⟨l, s⟩)

/-- What is there after a run. -/
def after (d : Desk) (visits : List Visit) : Desk := visits.foldl (fun d v => (d.visit v).2) d

/-- The counts of a run, each with its visit. -/
def counts (d : Desk) : List Visit → List (Visit × Int)
  | [] => []
  | v :: rest => (v, (d.visit v).1) :: counts (d.visit v).2 rest

/-- The answers of a run, each with its visit. -/
def answers (d : Desk) : List Visit → List (Visit × Attempt Unit)
  | [] => []
  | v :: rest => (v, (d.answer v).1) :: answers (d.answer v).2 rest

/-- Whether each visit of a run is as it should be where it comes. -/
def Throughout (P : Desk → Visit → Prop) (d : Desk) : List Visit → Prop
  | [] => True
  | v :: rest => P d v ∧ Throughout P (d.visit v).2 rest

instance (P : Desk → Visit → Prop) [∀ d v, Decidable (P d v)] (d : Desk) (visits : List Visit) :
    Decidable (d.Throughout P visits) :=
  match visits with
  | [] => .isTrue trivial
  | v :: rest =>
      have := instDecidableThroughout P (d.visit v).2 rest
      inferInstanceAs (Decidable (P d v ∧ (d.visit v).2.Throughout P rest))

section OneVisit

variable (d : Desk) (v : Visit)

theorem visit_eq :
    d.visit v =
      match d.tryServer v with
      | (some count, s) => (count, ⟨d.limiter, s⟩)
      | (none, s) =>
          ((d.limiter.hitHere v.now (Limiter.clientKey v.client)).1,
            ⟨(d.limiter.hitHere v.now (Limiter.clientKey v.client)).2, s⟩) := by
  unfold visit tryServer
  rw [hit_eq]
  rcases d.limiter.tryServer (d.cache.elapse v.waited) v.outcomes
    (Limiter.clientKey v.client) with ⟨_ | count, s⟩ <;> rfl

theorem cache_visit : (d.visit v).2.cache = (d.tryServer v).2 := by
  rw [visit_eq]
  rcases d.tryServer v with ⟨_ | count, s⟩ <;> rfl

variable {d v}

theorem visit_of_server {count : Int} (h : (d.tryServer v).1 = some count) :
    (d.visit v).1 = count ∧ (d.visit v).2.limiter = d.limiter := by
  rw [visit_eq]
  rcases hserver : d.tryServer v with ⟨_ | n, s⟩
  · simp [hserver] at h
  · exact ⟨by simpa [hserver] using h, rfl⟩

theorem visit_of_here (h : (d.tryServer v).1 = none) :
    (d.visit v).1 = (d.limiter.hitHere v.now (Limiter.clientKey v.client)).1 ∧
      (d.visit v).2.limiter =
        (d.limiter.hitHere v.now (Limiter.clientKey v.client)).2 := by
  rw [visit_eq]
  rcases hserver : d.tryServer v with ⟨_ | n, s⟩
  · exact ⟨rfl, rfl⟩
  · simp [hserver] at h

/-- A visit changes nothing of the limiter but its windows. -/
theorem limiter_visit_eq (d : Desk) (v : Visit) :
    (d.visit v).2.limiter = { d.limiter with windows := (d.visit v).2.limiter.windows } := by
  rw [visit_eq]
  rcases d.tryServer v with ⟨_ | n, s⟩ <;> rfl

theorem isOver_visit (d : Desk) (v : Visit) :
    (d.visit v).2.limiter.isOver = d.limiter.isOver := by
  rw [limiter_visit_eq]
  rfl

theorem seconds_visit (d : Desk) (v : Visit) :
    (d.visit v).2.limiter.seconds = d.limiter.seconds := by
  rw [limiter_visit_eq]

theorem nodup_windows_visit (h : d.limiter.windows.keys.Nodup) :
    (d.visit v).2.limiter.windows.keys.Nodup := by
  cases hserver : (d.tryServer v).1 with
  | none =>
      rw [(visit_of_here hserver).2]
      exact nodup_windows_hitHere _ _ h
  | some count => rwa [(visit_of_server hserver).2]

theorem answer_eq (d : Desk) (v : Visit) :
    d.answer v =
      (if d.limiter.limit < (d.visit v).1 then .error d.limiter.refusal else .ok (),
        (d.visit v).2) := by
  have hlimiter := limiter_visit_eq d v
  have hlimit : (d.visit v).2.limiter.limit = d.limiter.limit := by rw [hlimiter]
  have hrefusal : (d.visit v).2.limiter.refusal = d.limiter.refusal := by
    rw [hlimiter]
    rfl
  rw [← hlimit, ← hrefusal]
  unfold answer visit Limiter.check
  rcases d.limiter.hit (d.cache.elapse v.waited) v.outcomes v.now v.client with ⟨count, l, s⟩
  rfl

end OneVisit

end Desk

end AdminGrid.Cache
