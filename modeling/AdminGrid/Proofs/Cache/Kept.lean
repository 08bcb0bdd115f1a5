import AdminGrid.Proofs.Cache.Expiry
import AdminGrid.Proofs.Cache.Fallback
import AdminGrid.Proofs.Json.RoundTrip

/-!
# Values that are kept

While the server is reached, a value that is set under a key is found under it again, whatever is
set under other keys in between.  It has to be a document, nested in no more levels than can be
written; a deeper one is not kept.
-/

namespace AdminGrid.Cache

open Json

/-- Whether a client is there, or can be made. -/
def State.Online (s : State) : Prop :=
  s.client = some .connected ∨ s.client = none ∧ s.enabled = true

/-- The server is reached. -/
structure Outcomes.Reaches (o : Outcomes) : Prop where
  check : o.check = true
  connect : o.connect = true

/-- The server is reached, keeps what is set and gives it back. -/
structure Outcomes.Serves (o : Outcomes) : Prop extends o.Reaches where
  set : o.set = true
  keep : o.keep = true
  get : o.get = true

theorem serves_good : Outcomes.good.Serves := ⟨⟨rfl, rfl⟩, rfl, rfl, rfl⟩

/-- Setting a value under a key. -/
structure Setting where
  key : String
  value : Value
  expire : Option Int
  outcomes : Outcomes

/-- What setting a value leaves. -/
def State.keep (s : State) (c : Setting) : State := (set s c.outcomes c.key c.value c.expire).2

section

variable {s : State} {o : Outcomes}

theorem client_current (hs : s.Online) (ho : o.Reaches) :
    (s.current o).client = some .connected := by
  unfold State.current
  rcases hs with hclient | ⟨hclient, henabled⟩
  · rw [hclient]
    dsimp only
    rw [if_pos ho.check]
  · rw [hclient]
    dsimp only
    rw [State.connectAnew, if_pos henabled, if_pos ho.connect]

theorem isConnected_current (hs : s.Online) (ho : o.Reaches) :
    (s.current o).isConnected = true := by
  rw [State.isConnected, client_current hs ho]
  rfl

theorem online_keep (c : Setting) (hs : s.Online) (ho : c.outcomes.Reaches) :
    (s.keep c).Online := by
  obtain ⟨entries, hset⟩ := exists_set_snd s c.outcomes c.key c.value c.expire
  rw [State.keep, hset]
  exact .inl (client_current hs ho)

theorem online_get (hs : s.Online) (ho : o.Reaches) (key : String) : (get s o key).2.Online := by
  rw [get_snd]
  exact .inl (client_current hs ho)

theorem serverKey_injective : Function.Injective serverKey := fun _ _ h =>
  (String.append_right_inj "tablecraft:").1 h

/-- Setting a value touches nothing under another key. -/
theorem get?_entries_keep {c : Setting} {key : String} (h : c.key ≠ key) :
    (s.keep c).entries.get? (serverKey key) = s.entries.get? (serverKey key) := by
  have hcurrent := entries_current s c.outcomes
  unfold State.keep set
  dsimp only
  split
  · rw [hcurrent]
  split
  · rw [hcurrent]
  split
  · rw [Entries.get?_put, if_neg fun heq => h (serverKey_injective heq), hcurrent]
  · rw [hcurrent]

/-- A value that cannot be written is not kept. -/
theorem set_of_error {key : String} {v : Value} {expire : Option Int} {e : Failure}
    (h : write .compact v = .error e) : set s o key v expire = (false, s.current o) := by
  unfold set
  rw [h]
  dsimp only
  split <;> rfl

section Set

variable (hs : s.Online) (ho : o.Serves) (key : String) (v : Value) (expire : Option Int)

include hs ho

/-- A value that can be written is kept. -/
theorem exists_set_of_write {text : String} (h : write .compact v = .ok text) :
    ∃ ttl, set s o key v expire = (true, { s.current o with
      entries := s.entries.put (serverKey key) ⟨text, ttl⟩ }) := by
  refine ⟨some (expire.getD (s.current o).usualTtl), ?_⟩
  have hconnected := isConnected_current hs ho.toReaches
  unfold set
  rw [h, ho.set, ho.keep, ← entries_current s o]
  generalize s.current o = now at hconnected ⊢
  dsimp only
  rw [hconnected]
  rfl

/-- A document is kept exactly if it is not nested too deeply. -/
theorem set_fst_iff (hv : IsDocument v) :
    (set s o key v expire).1 = true ↔ nesting v ≤ maxNesting := by
  rw [← exists_write_iff hv]
  constructor
  · intro hset
    cases htext : write .compact v with
    | ok text => exact ⟨text, rfl⟩
    | error e =>
        rw [set_of_error htext] at hset
        cases hset
  · rintro ⟨text, htext⟩
    obtain ⟨ttl, hset⟩ := exists_set_of_write hs ho key v expire htext
    rw [hset]

end Set

/-- What is found under a key is read from the text that the server has there. -/
theorem get_of_serves (hs : s.Online) (ho : o.Serves) {key text : String} {ttl : Option Int}
    (h : s.entries.get? (serverKey key) = some ⟨text, ttl⟩) :
    (get s o key).1 = (read? text).getD .null := by
  have hconnected := isConnected_current hs ho.toReaches
  rw [← entries_current s o] at h
  unfold get
  rw [ho.get]
  generalize s.current o = now at hconnected h ⊢
  dsimp only
  rw [hconnected, h]
  rfl

/-- Values set under other keys do not matter. -/
theorem keepAll_of_ne {key : String} {others : List Setting} (hs : s.Online)
    (hothers : ∀ c ∈ others, c.key ≠ key ∧ c.outcomes.Reaches) :
    (others.foldl State.keep s).Online ∧
      (others.foldl State.keep s).entries.get? (serverKey key) =
        s.entries.get? (serverKey key) := by
  induction others generalizing s with
  | nil => exact ⟨hs, rfl⟩
  | cons c others ih =>
      rw [List.forall_mem_cons] at hothers
      obtain ⟨honline, hfound⟩ := ih (online_keep c hs hothers.1.2) hothers.2
      exact ⟨honline, hfound.trans (get?_entries_keep hothers.1.1)⟩

/-- A document that is not nested too deeply is found again after values were set under other
keys. -/
theorem get_of_set {o' : Outcomes} (hs : s.Online) (ho : o.Serves) (ho' : o'.Serves)
    {key : String} {v : Value} (expire : Option Int) {others : List Setting}
    (hothers : ∀ c ∈ others, c.key ≠ key ∧ c.outcomes.Reaches) (hv : IsDocument v)
    (hdepth : nesting v ≤ maxNesting) :
    (get (others.foldl State.keep (set s o key v expire).2) o' key).1 = v := by
  obtain ⟨text, htext⟩ := (exists_write_iff hv).2 hdepth
  obtain ⟨ttl, hset⟩ := exists_set_of_write hs ho key v expire htext
  have hkept : (set s o key v expire).2.Online := online_keep ⟨key, v, expire, o⟩ hs ho.toReaches
  obtain ⟨honline, hfound⟩ := keepAll_of_ne hkept hothers
  have hentry : (set s o key v expire).2.entries.get? (serverKey key) = some ⟨text, ttl⟩ := by
    rw [hset, Entries.get?_put_self]
  rw [get_of_serves honline ho' (hfound.trans hentry), read?_of_write hv htext]
  rfl

end

end AdminGrid.Cache
