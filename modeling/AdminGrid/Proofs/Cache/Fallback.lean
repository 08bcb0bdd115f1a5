import AdminGrid.Cache.Calls
import AdminGrid.Proofs.Outcome

/-!
# Falling back from the server

Each operation of the cache, run command by command with every failure followed to its handler, does
what the operation does on the outcomes of its commands, and hands out the client that it leaves.
From there three facts hold after any run of operations: there is a pool exactly beside a connected
client, values are set and looked up without a failure, and a stand-in stays in place, and costs no
further command, until the cache is closed.
-/

namespace AdminGrid.Cache

variable (k : Commands) (s : State)

section Calls

theorem run_dial : (dial k).run.run s = match k.pool, k.connect with
    | .error e, _ => (.error e, { s with connections := s.connections + 1 })
    | .ok _, .error e => (.error e, { s with connections := s.connections + 1, pooled := true })
    | .ok _, .ok _ => (.ok .connected, { s with
        connections := s.connections + 1, pooled := true, client := some .connected }) := by
  obtain ⟨pool, connect, _⟩ := k
  cases pool with
  | error e => rfl
  | ok _ => cases connect <;> rfl

/-- The stand-in takes its place even if the pool cannot be released. -/
theorem run_standBy : (standBy k).run.run s =
    (.ok .standIn, { s with client := some .standIn, pooled := false }) := by
  obtain ⟨enabled, usualTtl, client, pooled, entries, connections, checks⟩ := s
  cases pooled with
  | false => rfl
  | true =>
      obtain ⟨_, _, _, _, _, _, release⟩ := k
      cases release <;> rfl

/-- A computation that hands out the client of the state that it leaves. -/
def Hands (call : Calling Client) (s next : State) : Prop :=
  ∃ client, next.client = some client ∧ call.run.run s = (.ok client, next)

theorem hands_connectClient_of_none (h : s.client = none) :
    Hands (connectClient k) s (s.connectAnew k.outcomes) := by
  have hcall : (connectClient k).run.run s = if s.enabled
      then (tryCatch (dial k) fun _ => standBy k).run.run s
      else (.ok .standIn, { s with client := some .standIn }) := by
    obtain ⟨enabled, usualTtl, client, pooled, entries, connections, checks⟩ := s
    obtain rfl : client = none := h
    cases enabled <;> rfl
  unfold Hands
  rw [hcall]
  cases henabled : s.enabled with
  | false =>
      rw [State.connectAnew, henabled]
      exact ⟨.standIn, rfl, rfl⟩
  | true =>
      have hnew : s.connectAnew k.outcomes = if k.pool.isOk && k.connect.isOk
          then { s with
            connections := s.connections + 1, pooled := true, client := some .connected }
          else { s with
            connections := s.connections + 1, pooled := false, client := some .standIn } := by
        rw [State.connectAnew, henabled]
        rfl
      rw [hnew, if_pos rfl, run_tryCatch, run_dial]
      -- the handler finds a pool, its own or an old one, or none: the stand-in is alike
      cases k.pool with
      | error e => exact ⟨.standIn, rfl, run_standBy k _⟩
      | ok _ =>
          cases k.connect with
          | error e => exact ⟨.standIn, rfl, run_standBy k _⟩
          | ok _ => exact ⟨.connected, rfl, rfl⟩

/-- Connecting hands out a client, whatever fails. -/
theorem hands_connectClient : Hands (connectClient k) s (s.connect k.outcomes) := by
  cases h : s.client with
  | none =>
      have hconnect : s.connect k.outcomes = s.connectAnew k.outcomes := by
        rw [State.connect, h]
      rw [hconnect]
      exact hands_connectClient_of_none k s h
  | some client =>
      obtain ⟨enabled, usualTtl, _, pooled, entries, connections, checks⟩ := s
      obtain rfl := h
      exact ⟨client, rfl, rfl⟩

/-- A new connection does not depend on the client that was there before. -/
theorem connectAnew_of_lost (o : Outcomes) :
    ({ s with client := none } : State).connectAnew o = s.connectAnew o := by
  obtain ⟨enabled, usualTtl, client, pooled, entries, connections, checks⟩ := s
  obtain ⟨check, connect, _⟩ := o
  cases enabled <;> cases connect <;> rfl

/-- The check of a connected client either succeeds, or the client is lost and another one is asked
for. -/
theorem run_checkedClient_of_connected (h : s.client = some .connected) :
    (checkedClient k).run.run s = match k.check with
      | .ok _ => (.ok .connected, { s with checks := s.checks + 1 })
      | .error _ =>
          (connectClient k).run.run { s with checks := s.checks + 1, client := none } := by
  obtain ⟨enabled, usualTtl, _, pooled, entries, connections, checks⟩ := s
  obtain rfl := h
  obtain ⟨_, _, check, _⟩ := k
  cases check <;> rfl

/-- A client that is lost is replaced, whatever fails. -/
theorem hands_checkedClient : Hands (checkedClient k) s (s.current k.outcomes) := by
  cases hclient : s.client with
  | none =>
      have hcall : (checkedClient k).run.run s = (connectClient k).run.run s := by
        obtain ⟨enabled, usualTtl, _, _⟩ := s
        obtain rfl := hclient
        rfl
      have hcurrent : s.current k.outcomes = s.connectAnew k.outcomes := by
        rw [State.current, hclient]
      unfold Hands
      rw [hcall, hcurrent]
      exact hands_connectClient_of_none k s hclient
  | some client =>
      cases client with
      | standIn =>
          obtain ⟨enabled, usualTtl, _, _⟩ := s
          obtain rfl := hclient
          exact ⟨.standIn, rfl, rfl⟩
      | connected =>
          have hcurrent : s.current k.outcomes = if k.check.isOk
              then { s with checks := s.checks + 1 }
              else ({ s with checks := s.checks + 1 } : State).connectAnew k.outcomes := by
            rw [State.current, hclient]
            rfl
          unfold Hands
          rw [run_checkedClient_of_connected k s hclient, hcurrent]
          cases k.check with
          | ok _ => exact ⟨.connected, hclient, rfl⟩
          | error e =>
              -- the client is forgotten before another one is asked for
              have hlost := hands_connectClient_of_none k
                { s with checks := s.checks + 1, client := none } rfl
              rwa [connectAnew_of_lost { s with checks := s.checks + 1 }] at hlost

theorem run_setValue (key : String) (v : Value) (expire : Option Int) :
    (setValue k key v expire).run.run s =
      (.ok (set s k.outcomes key v expire).1, (set s k.outcomes key v expire).2) := by
  obtain ⟨client, hclient, hcall⟩ := hands_checkedClient k s
  unfold setValue set
  rw [run_bind, hcall]
  generalize s.current k.outcomes = s at hclient ⊢
  have hconnected : s.isConnected = (client == .connected) := by
    rw [State.isConnected, hclient]
    rfl
  dsimp only
  rw [hconnected]
  cases client with
  | standIn => rfl
  | connected =>
      dsimp only
      rw [run_tryCatch]
      cases htext : Json.write .compact v with
      | error e => rfl
      | ok text =>
          unfold Commands.outcomes
          rcases hset : k.set with e | _ | _ <;> rfl

theorem run_getValue (key : String) :
    (getValue k key).run.run s = (.ok (get s k.outcomes key).1, (get s k.outcomes key).2) := by
  obtain ⟨client, hclient, hcall⟩ := hands_checkedClient k s
  unfold getValue get
  rw [run_bind, hcall]
  generalize s.current k.outcomes = s at hclient ⊢
  have hconnected : s.isConnected = (client == .connected) := by
    rw [State.isConnected, hclient]
    rfl
  dsimp only
  rw [hconnected]
  cases client with
  | standIn => rfl
  | connected =>
      dsimp only
      rw [run_tryCatch]
      unfold Commands.outcomes
      cases k.get with
      | error e => rfl
      | ok _ =>
          show (Except.ok _, s) = _
          cases s.entries.get? (serverKey key) <;> rfl

/-- The cache is closed unless the connections of its pool cannot be released. -/
theorem run_closeClient : (closeClient k).run.run s =
    match if s.pooled then k.release else .ok () with
    | .error e => (.error e, s)
    | .ok _ => (.ok (), s.close) := by
  obtain ⟨_, _, _, _, _, close, release⟩ := k
  obtain ⟨enabled, usualTtl, client, pooled, entries, connections, checks⟩ := s
  rcases client with _ | _ | _ <;> cases pooled <;> cases close <;> cases release <;> rfl

end Calls

section Operations

theorem run_discard {α : Type} (call : Calling α) :
    ((discard call : Calling Unit).run.run s).2 = (call.run.run s).2 := by
  show ((call >>= fun _ => pure ()).run.run s).2 = _
  rw [run_bind]
  rcases call.run.run s with ⟨_ | x, next⟩ <;> rfl

theorem after_connect : s.after (.connect, k) = s.connect k.outcomes := by
  obtain ⟨client, -, hcall⟩ := hands_connectClient k s
  exact (run_discard s _).trans (congrArg Prod.snd hcall)

theorem after_current : s.after (.current, k) = s.current k.outcomes := by
  obtain ⟨client, -, hcall⟩ := hands_checkedClient k s
  exact (run_discard s _).trans (congrArg Prod.snd hcall)

theorem after_set (key : String) (v : Value) (expire : Option Int) :
    s.after (.set key v expire, k) = (set s k.outcomes key v expire).2 :=
  (run_discard s _).trans (congrArg Prod.snd (run_setValue k s key v expire))

theorem after_get (key : String) : s.after (.get key, k) = (get s k.outcomes key).2 :=
  (run_discard s _).trans (congrArg Prod.snd (run_getValue k s key))

theorem after_close : s.after (.close, k) = s ∨ s.after (.close, k) = s.close := by
  have hcall := run_closeClient k s
  unfold State.after Operation.call
  rw [hcall]
  cases (if s.pooled then k.release else .ok ()) with
  | error e => exact .inl rfl
  | ok _ => exact .inr rfl

end Operations

/-- There is a pool exactly beside a connected client, and neither of them unless connections are
made at all. -/
structure State.Coherent (s : State) : Prop where
  pooled_iff : s.pooled = true ↔ s.client = some .connected
  enabled : s.client = some .connected → s.enabled = true

section Coherent

variable {s}

theorem coherent_start (enabled : Bool) (usualTtl : Int) :
    (State.start enabled usualTtl).Coherent := by
  constructor <;> simp [State.start]

theorem State.Coherent.connectAnew (h : s.Coherent) (o : Outcomes) :
    (s.connectAnew o).Coherent := by
  unfold State.connectAnew
  cases henabled : s.enabled with
  | true =>
      cases o.connect with
      | true => exact ⟨by simp, fun _ => rfl⟩
      | false => constructor <;> simp
  | false =>
      -- where no connections are made, there was no pool to begin with
      have hpooled : s.pooled = false := by
        by_contra hpooled
        have hconnected := h.pooled_iff.1 (by simpa using hpooled)
        rw [h.enabled hconnected] at henabled
        cases henabled
      constructor <;> simp [hpooled]

theorem State.Coherent.connect (h : s.Coherent) (o : Outcomes) : (s.connect o).Coherent := by
  unfold State.connect
  split
  · exact h
  · exact h.connectAnew o

theorem State.Coherent.current (h : s.Coherent) (o : Outcomes) : (s.current o).Coherent := by
  have hchecked : ({ s with checks := s.checks + 1 } : State).Coherent :=
    ⟨h.pooled_iff, h.enabled⟩
  unfold State.current
  split
  · exact h.connectAnew o
  · exact h
  · dsimp only
    split
    · exact hchecked
    · exact hchecked.connectAnew o

theorem coherent_close : s.close.Coherent := by
  constructor <;> simp [State.close]

/-- Setting a value leaves the client and the pool as a check leaves them. -/
theorem exists_set_snd (s : State) (o : Outcomes) (key : String) (v : Value)
    (expire : Option Int) :
    ∃ entries, (set s o key v expire).2 = { s.current o with entries := entries } := by
  unfold set
  dsimp only
  split
  · exact ⟨_, rfl⟩
  split
  · exact ⟨_, rfl⟩
  split
  · exact ⟨_, rfl⟩
  · exact ⟨_, rfl⟩

theorem get_snd (s : State) (o : Outcomes) (key : String) : (get s o key).2 = s.current o := by
  unfold get
  dsimp only
  split
  · rfl
  · split <;> rfl

/-- Every operation keeps the client and the pool coherent, whatever fails. -/
theorem State.Coherent.after (h : s.Coherent) (call : Operation × Commands) :
    (s.after call).Coherent := by
  obtain ⟨operation, k⟩ := call
  cases operation with
  | connect =>
      rw [after_connect]
      exact h.connect _
  | current =>
      rw [after_current]
      exact h.current _
  | set key v expire =>
      obtain ⟨entries, hset⟩ := exists_set_snd s k.outcomes key v expire
      have hcurrent := h.current k.outcomes
      rw [after_set, hset]
      exact ⟨hcurrent.pooled_iff, hcurrent.enabled⟩
  | get key =>
      rw [after_get, get_snd]
      exact h.current _
  | close =>
      rcases after_close k s with hclose | hclose <;> rw [hclose]
      · exact h
      · exact coherent_close

theorem State.Coherent.afterAll (h : s.Coherent) (calls : List (Operation × Commands)) :
    (calls.foldl State.after s).Coherent := by
  induction calls generalizing s with
  | nil => exact h
  | cons call calls ih => exact ih (h.after call)

end Coherent

section StandIn

variable {s} (h : s.client = some .standIn)

include h

/-- Under the stand-in no operation but closing does anything. -/
theorem after_of_standIn {call : Operation × Commands} (hopen : call.1 ≠ .close) :
    s.after call = s := by
  obtain ⟨enabled, usualTtl, _, pooled, entries, connections, checks⟩ := s
  obtain rfl := h
  obtain ⟨operation, k⟩ := call
  cases operation with
  | connect => rw [after_connect]; rfl
  | current => rw [after_current]; rfl
  | set key v expire => rw [after_set]; rfl
  | get key => rw [after_get]; rfl
  | close => exact absurd rfl hopen

theorem afterAll_of_standIn {calls : List (Operation × Commands)}
    (hopen : ∀ call ∈ calls, call.1 ≠ .close) : calls.foldl State.after s = s := by
  induction calls with
  | nil => rfl
  | cons call calls ih =>
      rw [List.forall_mem_cons] at hopen
      rw [List.foldl_cons, after_of_standIn h hopen.1]
      exact ih hopen.2

end StandIn

/-- After any operations, whatever of their commands failed: a connected client has a pool, and
without one there is no pool; values are set and looked up without a failure; and once the stand-in
is there, nothing changes any more until the cache is closed, so that no further connection is tried
and no client is checked. -/
theorem falls_back (enabled : Bool) (usualTtl : Int) (calls : List (Operation × Commands)) :
    let s := calls.foldl State.after (.start enabled usualTtl)
    (s.client = some .connected → s.pooled = true) ∧
    (s.client = none ∨ s.client = some .standIn → s.pooled = false) ∧
    (∀ k key v expire, ∃ kept, ((setValue k key v expire).run.run s).1 = .ok kept) ∧
    (∀ k key, ∃ v, ((getValue k key).run.run s).1 = .ok v) ∧
    (s.client = some .standIn → ∀ later : List (Operation × Commands),
      (∀ call ∈ later, call.1 ≠ .close) → later.foldl State.after s = s) := by
  intro s
  have hcoherent : s.Coherent := (coherent_start enabled usualTtl).afterAll calls
  refine ⟨hcoherent.pooled_iff.2, fun hclient => ?_, fun k key v expire => ?_, fun k key => ?_,
    fun hclient later hopen => afterAll_of_standIn hclient hopen⟩
  · by_contra hpooled
    have hconnected := hcoherent.pooled_iff.1 (by simpa using hpooled)
    rw [hconnected] at hclient
    simp at hclient
  · rw [run_setValue]
    exact ⟨_, rfl⟩
  · rw [run_getValue]
    exact ⟨_, rfl⟩

/-- A connection that is lost and cannot be made anew leaves the stand-in, and a server that answers
again afterwards is not asked. -/
theorem falls_back_connectionLost :
    let lost : Commands := { Commands.good with
      check := .error .unavailable, connect := .error .unavailable }
    let s := [(.connect, .good), (.get "a", lost)].foldl State.after (.start true 60)
    s.client = some .standIn ∧ s.pooled = false ∧ s.connections = 2 ∧
      [(.set "a" .null none, .good), (.get "a", Commands.good)].foldl State.after s = s := by
  intro lost s
  obtain ⟨-, hpooled, -, -, hstays⟩ :=
    falls_back true 60 [(.connect, .good), (.get "a", lost)]
  have hclient : s.client = some .standIn := rfl
  refine ⟨hclient, hpooled (.inr hclient), rfl, hstays hclient _ fun call hcall => ?_⟩
  simp only [List.mem_cons, List.not_mem_nil, or_false] at hcall
  rcases hcall with rfl | rfl <;> exact fun hclose => nomatch hclose

end AdminGrid.Cache
