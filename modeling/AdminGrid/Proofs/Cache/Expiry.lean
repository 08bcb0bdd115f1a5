import AdminGrid.Proofs.Cache.Windows
import AdminGrid.Proofs.Number.Reading

/-!
# Counters on the server

A client is counted on the server under a key of its own.  The first count makes the counter, and a
second command limits the time that it has to live.  Where that command fails after the first one
succeeded, the counter is abandoned: it has no limited time, later counts find it there and never
limit it, and so its client is counted on over all windows to come.

Nothing else can go wrong.  A run in which no counter is abandoned leaves each counter with a limited
time to live after every visit, and a client that stays away for a whole window is counted from `1`
again, whatever else failed.
-/

namespace AdminGrid.Cache

/-- What is left of an entry after some seconds. -/
def Entry.aged (seconds : Int) (e : Entry) : Option Entry :=
  match e.ttl with
  | none => some e
  | some ttl => if ttl ≤ seconds then none else some { e with ttl := some (ttl - seconds) }

/-- An entry that is left lives without limit, or it has so much longer to live than the seconds that
have passed. -/
theorem Entry.aged_eq_some_iff {seconds : Int} {e left : Entry} :
    e.aged seconds = some left ↔
      (e.ttl = none ∧ left = e) ∨
        ∃ ttl, e.ttl = some ttl ∧ seconds < ttl ∧
          left = { e with ttl := some (ttl - seconds) } := by
  obtain ⟨text, ttl⟩ := e
  cases ttl with
  | none => simp [Entry.aged, eq_comm]
  | some ttl =>
      by_cases hgone : ttl ≤ seconds
      · simp [Entry.aged, hgone, Int.not_lt.2 hgone]
      · simp [Entry.aged, hgone, Int.lt_of_not_ge hgone, eq_comm]

section Server

variable (s : State) (o : Outcomes) (seconds : Int)

theorem entries_elapse :
    (s.elapse seconds).entries =
      s.entries.filterMap fun e => (e.2.aged seconds).map fun left => (e.1, left) := by
  refine List.filterMap_congr fun e _ => ?_
  obtain ⟨key, text, ttl⟩ := e
  cases ttl with
  | none => rfl
  | some ttl => by_cases h : ttl ≤ seconds <;> simp [Entry.aged, h]

/-- Connecting to the server changes nothing of what it keeps. -/
theorem entries_current : (s.current o).entries = s.entries := by
  have hanew : ∀ s : State, (s.connectAnew o).entries = s.entries := fun s => by
    unfold State.connectAnew
    cases s.enabled <;> cases o.connect <;> rfl
  unfold State.current
  cases s.client with
  | none => exact hanew s
  | some client =>
      cases client with
      | standIn => rfl
      | connected => cases o.check <;> simp [hanew]

end Server

section Commands

variable {l : Limiter} {s : State} {o : Outcomes} {key : String} {e : Entry}

theorem hitServer_of_refused (h : o.increment = false) : l.hitServer s o key = (none, s) := by
  simp [Limiter.hitServer, h]

/-- A counter is made without a limit, and the second command limits it. -/
theorem hitServer_of_absent (hincrement : o.increment = true)
    (habsent : s.entries.get? key = none) :
    l.hitServer s o key =
      if o.expire then (some 1, { s with entries := s.entries.put key ⟨"1", some l.seconds⟩ })
      else (none, { s with entries := s.entries.put key ⟨"1", none⟩ }) := by
  simp [Limiter.hitServer, State.increment?, State.expire, hincrement, habsent,
    Entries.get?_put_self, Entries.put_put]

theorem hitServer_of_unread (hfound : s.entries.get? key = some e)
    (hread : Reading.int? e.text = none) : l.hitServer s o key = (none, s) := by
  simp [Limiter.hitServer, State.increment?, hfound, hread]

/-- A counter that is there counts from one on, so that it is never limited again. -/
theorem hitServer_of_read {n : Int} (hincrement : o.increment = true)
    (hfound : s.entries.get? key = some e) (hread : Reading.int? e.text = some n) (hpos : 1 ≤ n) :
    l.hitServer s o key =
      (some (n + 1),
        { s with entries := s.entries.put key { e with text := toString (n + 1) } }) := by
  have hne : n + 1 ≠ 1 := by omega
  simp [Limiter.hitServer, State.increment?, hincrement, hfound, hread, hne]

end Commands

namespace Desk

/-- What the server keeps when a visit comes. -/
def onServer (d : Desk) (v : Visit) : Entries Entry := (d.cache.elapse v.waited).entries

/-- Whether a visit makes a counter on the server and fails to limit its time to live. -/
def Abandons (d : Desk) (v : Visit) : Prop :=
  ((d.cache.elapse v.waited).current v.outcomes).isConnected = true ∧
    v.outcomes.increment = true ∧ v.outcomes.expire = false ∧
    ((d.onServer v).get? (Limiter.clientKey v.client)).isNone = true

instance (d : Desk) (v : Visit) : Decidable (d.Abandons v) :=
  inferInstanceAs (Decidable (_ ∧ _ ∧ _ ∧ _))

/-- The ways in which a visit is tried on the server: the count, if there is one, and what the
server keeps then. -/
inductive Tried (d : Desk) (v : Visit) : Option Int → Entries Entry → Prop
  | failed (h : ¬ d.Abandons v) : Tried d v none (d.onServer v)
  | begun (habsent : (d.onServer v).get? (Limiter.clientKey v.client) = none)
      (hexpire : v.outcomes.expire = true) :
      Tried d v (some 1)
        ((d.onServer v).put (Limiter.clientKey v.client) ⟨"1", some d.limiter.seconds⟩)
  | abandoned (h : d.Abandons v) :
      Tried d v none ((d.onServer v).put (Limiter.clientKey v.client) ⟨"1", none⟩)
  | counted (e : Entry) (n : Int)
      (hfound : (d.onServer v).get? (Limiter.clientKey v.client) = some e)
      (hread : Reading.int? e.text = some n) :
      Tried d v (some (n + 1))
        ((d.onServer v).put (Limiter.clientKey v.client) { e with text := toString (n + 1) })

end Desk

/-- Whether an entry is a counter of windows of a given length. -/
structure Entry.Counts (seconds : Int) (e : Entry) : Prop where
  pos_of_read : ∀ n, Reading.int? e.text = some n → 1 ≤ n
  ttl_le : ∀ ttl, e.ttl = some ttl → ttl ≤ seconds

/-- Whether what is kept, here and on the server, was made by visits. -/
structure Desk.Sound (d : Desk) : Prop where
  nodup_entries : d.cache.entries.keys.Nodup
  counts : ∀ e ∈ d.cache.entries, e.2.Counts d.limiter.seconds
  nodup_windows : d.limiter.windows.keys.Nodup

section OneVisit

variable {d : Desk} {v : Visit}

theorem get?_onServer (h : d.Sound) (key : String) :
    (d.onServer v).get? key = (d.cache.entries.get? key).bind (Entry.aged v.waited) := by
  rw [Desk.onServer, entries_elapse]
  exact Entries.get?_filterMap h.nodup_entries key _

theorem Entry.Counts.aged {seconds waited : Int} {e left : Entry} (h : e.Counts seconds)
    (hwaited : 0 ≤ waited) (hleft : e.aged waited = some left) : left.Counts seconds := by
  obtain ⟨-, rfl⟩ | ⟨ttl, httl, -, rfl⟩ := Entry.aged_eq_some_iff.1 hleft
  · exact h
  · refine ⟨h.pos_of_read, fun t ht => ?_⟩
    have hle : ttl ≤ seconds := h.ttl_le ttl httl
    obtain rfl := Option.some.inj ht
    omega

theorem counts_onServer (h : d.Sound) : ∀ e ∈ d.onServer v, e.2.Counts d.limiter.seconds := by
  intro e he
  rw [Desk.onServer, entries_elapse] at he
  obtain ⟨e, hmem, he⟩ := List.mem_filterMap.1 he
  obtain ⟨left, hleft, rfl⟩ := Option.map_eq_some_iff.1 he
  exact (h.counts e hmem).aged (Int.natCast_nonneg _) hleft

/-- Every visit is tried in one of these ways. -/
theorem tried_visit (h : d.Sound) :
    d.Tried v (d.tryServer v).1 (d.visit v).2.cache.entries := by
  rw [Desk.cache_visit]
  have hcounts := counts_onServer (v := v) h
  -- stated before the server is generalized, which hides it in the definition
  have habandons : d.Abandons v ↔
      ((d.cache.elapse v.waited).current v.outcomes).isConnected = true ∧
        v.outcomes.increment = true ∧ v.outcomes.expire = false ∧
        ((d.onServer v).get? (Limiter.clientKey v.client)).isNone = true := Iff.rfl
  have hentries : ((d.cache.elapse v.waited).current v.outcomes).entries = d.onServer v :=
    entries_current _ _
  unfold Desk.tryServer Limiter.tryServer
  generalize (d.cache.elapse v.waited).current v.outcomes = s at habandons hentries ⊢
  have hfailed : ¬ d.Abandons v → d.Tried v none s.entries := fun hnot => by
    rw [hentries]
    exact .failed hnot
  by_cases hconnected : s.isConnected = true
  swap
  · simpa [hconnected] using hfailed fun ha => hconnected (habandons.1 ha).1
  simp only [hconnected, if_true]
  by_cases hincrement : v.outcomes.increment = true
  swap
  · rw [hitServer_of_refused (Bool.eq_false_iff.2 hincrement)]
    exact hfailed fun ha => hincrement (habandons.1 ha).2.1
  cases hfound : (d.onServer v).get? (Limiter.clientKey v.client) with
  | none =>
      rw [hitServer_of_absent hincrement (hentries ▸ hfound), hentries]
      cases hexpire : v.outcomes.expire with
      | false => exact .abandoned (habandons.2 ⟨hconnected, hincrement, hexpire, by simp [hfound]⟩)
      | true => exact .begun hfound hexpire
  | some e =>
      cases hread : Reading.int? e.text with
      | none =>
          rw [hitServer_of_unread (hentries ▸ hfound) hread]
          exact hfailed fun ha => by simpa [hfound] using (habandons.1 ha).2.2.2
      | some n =>
          have hpos : 1 ≤ n :=
            (hcounts _ (Entries.mem_of_get?_eq_some hfound)).pos_of_read n hread
          rw [hitServer_of_read hincrement (hentries ▸ hfound) hread hpos, hentries]
          exact .counted e n hfound hread

/-- A count that is written is read back as one that is at least as high. -/
theorem counts_succ {seconds n : Int} {e : Entry} (h : e.Counts seconds)
    (hread : Reading.int? e.text = some n) :
    Entry.Counts seconds { e with text := toString (n + 1) } := by
  refine ⟨fun m hm => ?_, h.ttl_le⟩
  have hpos : 1 ≤ n := h.pos_of_read n hread
  obtain ⟨k, hk⟩ := Int.eq_ofNat_of_zero_le (show 0 ≤ n + 1 by omega)
  rw [hk, Reading.int?_toString] at hm
  split at hm
  · cases hm
  · obtain rfl := Option.some.inj hm
    omega

theorem counts_one {seconds : Int} {ttl : Option Int} (h : ∀ t, ttl = some t → t ≤ seconds) :
    Entry.Counts seconds ⟨"1", ttl⟩ := by
  refine ⟨fun n hn => ?_, h⟩
  have hone : Reading.int? "1" = some 1 := by decide
  have heq : some 1 = some n := hone.symm.trans hn
  simp_all

theorem Desk.Sound.visit (h : d.Sound) : (d.visit v).2.Sound := by
  have hnodup : (d.onServer v).keys.Nodup := by
    rw [Desk.onServer, entries_elapse]
    exact Entries.nodup_keys_filterMap h.nodup_entries _
  have hcounts := counts_onServer (v := v) h
  have htried := tried_visit (v := v) h
  generalize (d.tryServer v).1 = count at htried
  generalize hentries : (d.visit v).2.cache.entries = entries at htried
  have hall : entries.keys.Nodup ∧ ∀ e ∈ entries, e.2.Counts d.limiter.seconds := by
    cases htried with
    | failed _ => exact ⟨hnodup, hcounts⟩
    | begun _ _ =>
        exact ⟨Entries.nodup_keys_put _ _ hnodup,
          Entries.forall_put hcounts _ (counts_one fun t ht => by simp_all)⟩
    | abandoned _ =>
        exact ⟨Entries.nodup_keys_put _ _ hnodup,
          Entries.forall_put hcounts _ (counts_one fun t ht => by simp_all)⟩
    | counted e n hfound hread =>
        exact ⟨Entries.nodup_keys_put _ _ hnodup,
          Entries.forall_put hcounts _
            (counts_succ (hcounts _ (Entries.mem_of_get?_eq_some hfound)) hread)⟩
  exact {
    nodup_entries := hentries ▸ hall.1
    counts := by
      rw [hentries, Desk.seconds_visit]
      exact hall.2
    nodup_windows := Desk.nodup_windows_visit h.nodup_windows }

end OneVisit

section Expiring

variable {d : Desk} {v : Visit} {client : String}

/-- Whether the counter of every client has a limited time to live. -/
def Desk.EachExpires (d : Desk) : Prop :=
  ∀ client e, d.cache.entries.get? (Limiter.clientKey client) = some e → e.ttl.isSome = true

theorem Entry.isSome_ttl_aged {seconds : Int} {e left : Entry} (h : e.aged seconds = some left) :
    left.ttl.isSome = e.ttl.isSome := by
  obtain ⟨-, rfl⟩ | ⟨ttl, httl, -, rfl⟩ := Entry.aged_eq_some_iff.1 h
  · rfl
  · rw [httl]
    rfl

theorem isSome_ttl_onServer (h : d.Sound) (hexpires : d.EachExpires) {e : Entry}
    (he : (d.onServer v).get? (Limiter.clientKey client) = some e) : e.ttl.isSome = true := by
  rw [get?_onServer h] at he
  obtain ⟨old, hold, haged⟩ := Option.bind_eq_some_iff.1 he
  rw [Entry.isSome_ttl_aged haged]
  exact hexpires client old hold

/-- One visit leaves every counter with a limited time to live, unless it abandons one. -/
theorem eachExpires_visit_iff (h : d.Sound) (hexpires : d.EachExpires) :
    (d.visit v).2.EachExpires ↔ ¬ d.Abandons v := by
  have htried := tried_visit (v := v) h
  have hserver : ∀ client e, (d.onServer v).get? (Limiter.clientKey client) = some e →
      e.ttl.isSome = true := fun client e => isSome_ttl_onServer h hexpires
  unfold Desk.EachExpires
  generalize (d.tryServer v).1 = count at htried
  generalize (d.visit v).2.cache.entries = entries at htried
  cases htried with
  | failed hnot => exact iff_of_true hserver hnot
  | begun _ hexpire =>
      refine iff_of_true (fun client e he => ?_) fun ha => by simp [ha.2.2.1] at hexpire
      rw [Entries.get?_put] at he
      split at he
      · obtain rfl := Option.some.inj he
        rfl
      · exact hserver client e he
  | abandoned ha =>
      refine iff_of_false (fun hall => ?_) (not_not_intro ha)
      -- the counter that is left behind is the client's own
      have hnone := hall v.client _ (Entries.get?_put_self _ _ _)
      simp at hnone
  | counted e n hfound hread =>
      refine iff_of_true (fun client e' he => ?_) fun ha => by
        simpa [hfound] using ha.2.2.2
      rw [Entries.get?_put] at he
      split at he
      · obtain rfl := Option.some.inj he
        exact hserver v.client e hfound
      · exact hserver client e' he

/-- A run leaves every counter with a limited time to live after each visit exactly if it abandons
none. -/
theorem throughout_eachExpires_iff {visits : List Visit} (h : d.Sound)
    (hexpires : d.EachExpires) :
    d.Throughout (fun d v => (d.visit v).2.EachExpires) visits ↔
      d.Throughout (fun d v => ¬ d.Abandons v) visits := by
  induction visits generalizing d with
  | nil => exact Iff.rfl
  | cons v rest ih =>
      rw [Desk.Throughout, Desk.Throughout, eachExpires_visit_iff h hexpires]
      refine and_congr_right fun hnot => ih h.visit ?_
      exact (eachExpires_visit_iff h hexpires).2 hnot

theorem after_cons (d : Desk) (v : Visit) (rest : List Visit) :
    d.after (v :: rest) = (d.visit v).2.after rest := rfl

theorem after_append (d : Desk) (past rest : List Visit) :
    d.after (past ++ rest) = (d.after past).after rest := List.foldl_append

theorem seconds_after (d : Desk) (visits : List Visit) :
    (d.after visits).limiter.seconds = d.limiter.seconds := by
  induction visits generalizing d with
  | nil => rfl
  | cons v rest ih => rw [after_cons, ih, Desk.seconds_visit]

theorem Desk.Sound.after {visits : List Visit} (h : d.Sound) : (d.after visits).Sound := by
  induction visits generalizing d with
  | nil => exact h
  | cons v rest ih => exact ih h.visit

theorem eachExpires_after {past rest : List Visit} (hexpires : d.EachExpires)
    (hrun : d.Throughout (fun d v => (d.visit v).2.EachExpires) (past ++ rest)) :
    (d.after past).EachExpires := by
  induction past generalizing d with
  | nil => exact hexpires
  | cons v past ih => exact ih hrun.1 hrun.2

end Expiring

/-- The seconds that pass on the server over some visits. -/
def waitedOver : List Visit → Nat
  | [] => 0
  | v :: rest => v.waited + waitedOver rest

theorem waitedOver_append (past rest : List Visit) :
    waitedOver (past ++ rest) = waitedOver past + waitedOver rest := by
  induction past with
  | nil => simp [waitedOver]
  | cons v past ih => rw [List.cons_append, waitedOver, waitedOver, ih, Nat.add_assoc]

section Silence

variable {d : Desk} {v : Visit} {client : String} {deadline : Int}

/-- Whether the counter of a client, if there is one, is gone after some seconds. -/
def Desk.GoneIn (d : Desk) (client : String) (seconds : Int) : Prop :=
  ∀ e, d.cache.entries.get? (Limiter.clientKey client) = some e →
    ∃ ttl, e.ttl = some ttl ∧ ttl ≤ seconds

/-- A counter with a limited time to live is gone after a window, at the latest. -/
theorem goneIn_of_eachExpires (h : d.Sound) (hexpires : d.EachExpires) {seconds : Int}
    (hseconds : d.limiter.seconds ≤ seconds) : d.GoneIn client seconds := by
  intro e he
  obtain ⟨ttl, httl⟩ := Option.isSome_iff_exists.1 (hexpires client e he)
  have hle : ttl ≤ d.limiter.seconds :=
    (h.counts _ (Entries.mem_of_get?_eq_some he)).ttl_le ttl httl
  exact ⟨ttl, httl, Int.le_trans hle hseconds⟩

theorem get?_onServer_of_goneIn (h : d.Sound) (hgone : d.GoneIn client v.waited) :
    (d.onServer v).get? (Limiter.clientKey client) = none := by
  rw [get?_onServer h]
  cases hfound : d.cache.entries.get? (Limiter.clientKey client) with
  | none => rfl
  | some e =>
      obtain ⟨ttl, httl, hle⟩ := hgone e hfound
      simp [Entry.aged, httl, hle]

/-- A visit of another client leaves a counter alone, while its time to live goes on. -/
theorem Desk.GoneIn.visit {seconds : Int} (h : d.Sound)
    (hgone : d.GoneIn client (v.waited + seconds)) (hne : v.client ≠ client) :
    (d.visit v).2.GoneIn client seconds := by
  have hserver : ∀ e, (d.onServer v).get? (Limiter.clientKey client) = some e →
      ∃ ttl, e.ttl = some ttl ∧ ttl ≤ seconds := fun e he => by
    rw [get?_onServer h] at he
    obtain ⟨old, hold, haged⟩ := Option.bind_eq_some_iff.1 he
    obtain ⟨ttl, httl, hle⟩ := hgone old hold
    obtain ⟨hnone, -⟩ | ⟨ttl', httl', -, rfl⟩ := Entry.aged_eq_some_iff.1 haged
    · simp [httl] at hnone
    · obtain rfl : ttl = ttl' := Option.some.inj (httl.symm.trans httl')
      exact ⟨ttl - v.waited, rfl, by omega⟩
  have hkey : Limiter.clientKey v.client ≠ Limiter.clientKey client := by simpa using hne
  have htried := tried_visit (v := v) h
  unfold Desk.GoneIn
  generalize (d.tryServer v).1 = count at htried
  generalize (d.visit v).2.cache.entries = entries at htried
  cases htried with
  | failed _ => exact hserver
  | begun _ _ => simpa only [Entries.get?_put, if_neg hkey] using hserver
  | abandoned _ => simpa only [Entries.get?_put, if_neg hkey] using hserver
  | counted e n _ _ => simpa only [Entries.get?_put, if_neg hkey] using hserver

theorem Desk.GoneIn.after {visits : List Visit} {seconds : Int} (h : d.Sound)
    (hgone : d.GoneIn client (waitedOver visits + seconds))
    (hsilent : ∀ v ∈ visits, v.client ≠ client) : (d.after visits).GoneIn client seconds := by
  -- each visit of another client uses up its own part of the seconds
  induction visits generalizing d with
  | nil => simpa [Desk.after, waitedOver] using hgone
  | cons v rest ih =>
      rw [List.forall_mem_cons] at hsilent
      refine ih h.visit (Desk.GoneIn.visit h ?_ hsilent.1) hsilent.2
      simpa [waitedOver, Int.add_assoc] using hgone

/-- Whether the window that is kept for a client, if there is one, is over by a time. -/
def Desk.OverBy (d : Desk) (client : String) (deadline : Int) : Prop :=
  ∀ w, d.limiter.windows.get? (Limiter.clientKey client) = some w →
    d.limiter.isOver deadline w.begun = true

/-- A visit of the client begins no window that is not over by a time, if it is itself that long
before. -/
theorem Desk.OverBy.visit (h : d.limiter.windows.keys.Nodup) (hover : d.OverBy client deadline)
    (hv : v.client = client → d.limiter.isOver deadline v.now = true) :
    (d.visit v).2.OverBy client deadline := by
  intro w hw
  rw [Desk.isOver_visit]
  cases hserver : (d.tryServer v).1 with
  | some count =>
      rw [(Desk.visit_of_server hserver).2] at hw
      exact hover w hw
  | none =>
      rw [(Desk.visit_of_here hserver).2, get?_windows_hitHere v.now _ h] at hw
      split at hw
      · rename_i hkey
        have hclient : v.client = client := by simpa using hkey
        obtain rfl := Option.some.inj hw
        generalize hwindow : d.limiter.windows.get? (Limiter.clientKey v.client) = before
        rcases begun_advance before with hbegun | ⟨kept, rfl, hbegun⟩
        · rw [hbegun]
          exact hv hclient
        · rw [hbegun]
          exact hover kept (hclient ▸ hwindow)
      · exact hover w (Option.eq_some_of_filter_eq_some hw)

theorem Desk.OverBy.after {visits : List Visit} (h : d.Sound) (hover : d.OverBy client deadline)
    (hall : ∀ v ∈ visits, v.client = client → d.limiter.isOver deadline v.now = true) :
    (d.after visits).OverBy client deadline := by
  induction visits generalizing d with
  | nil => exact hover
  | cons v rest ih =>
      rw [List.forall_mem_cons] at hall
      refine ih h.visit (hover.visit h.nodup_windows hall.1) ?_
      rw [Desk.isOver_visit]
      exact hall.2

theorem count_of_overBy (h : d.Sound) (hhere : d.CountsHere v) (hover : d.OverBy v.client v.now) :
    (d.visit v).1 = 1 := by
  rw [(Desk.visit_of_here hhere).1, hitHere_eq _ _ h.nodup_windows]
  cases hkept : d.limiter.windows.get? (Limiter.clientKey v.client) with
  | none => rfl
  | some w => rw [advance_of_over (hover w hkept)]; rfl

/-- A client is counted from `1` again where its counter is gone and its window is over. -/
theorem count_of_gone (h : d.Sound) (hgone : d.GoneIn v.client v.waited)
    (hover : d.OverBy v.client v.now) : (d.visit v).1 = 1 := by
  have habsent := get?_onServer_of_goneIn h hgone
  have htried := tried_visit (v := v) h
  generalize hserver : (d.tryServer v).1 = count at htried
  generalize (d.visit v).2.cache.entries = entries at htried
  cases htried with
  | failed _ => exact count_of_overBy h hserver hover
  | begun _ _ => exact (Desk.visit_of_server hserver).1
  | abandoned _ => exact count_of_overBy h hserver hover
  | counted e n hfound _ =>
      rw [habsent] at hfound
      cases hfound

end Silence

/-- Whether every client that stays away for a whole window, by the clock of the server and by that
of the process, is counted from `1` at its next visit. -/
def Desk.SilenceForgets (d : Desk) (visits : List Visit) : Prop :=
  ∀ past silent v rest, visits = past ++ silent ++ v :: rest →
    (∀ u ∈ silent, u.client ≠ v.client) →
    d.limiter.seconds ≤ waitedOver (silent ++ [v]) →
    (∀ u ∈ past, u.client = v.client → d.limiter.isOver v.now u.now = true) →
    ((d.after (past ++ silent)).visit v).1 = 1

section Opened

variable (limit seconds : Int) {s : State} (hs : s.entries = [])

include hs

theorem sound_opened : (Desk.opened limit seconds s).Sound where
  nodup_entries := by simp [Desk.opened, hs, Entries.keys]
  counts := by simp [Desk.opened, hs]
  nodup_windows := List.nodup_nil

theorem silenceForgets_of_eachExpires {visits : List Visit}
    (hrun : (Desk.opened limit seconds s).Throughout (fun d v => (d.visit v).2.EachExpires)
      visits) : (Desk.opened limit seconds s).SilenceForgets visits := by
  intro past silent v rest hvisits hsilent hwaited hlong
  have hsound := sound_opened limit seconds hs
  have hexpires : (Desk.opened limit seconds s).EachExpires := fun client e he => by
    simp [Desk.opened, hs] at he
  have hfresh : (Desk.opened limit seconds s).OverBy v.client v.now := fun w hw => by cases hw
  rw [hvisits, List.append_assoc] at hrun
  rw [waitedOver_append] at hwaited
  -- the counter runs out during the silence, whatever the other clients do meanwhile
  have hgone : ((Desk.opened limit seconds s).after past).GoneIn v.client
      (waitedOver silent + (v.waited : Int)) := by
    refine goneIn_of_eachExpires hsound.after (eachExpires_after hexpires hrun) ?_
    rw [seconds_after]
    simpa [waitedOver] using hwaited
  have hover : ((Desk.opened limit seconds s).after (past ++ silent)).OverBy v.client v.now := by
    refine hfresh.after hsound fun u hu hclient => ?_
    rcases List.mem_append.1 hu with hu | hu
    · exact hlong u hu hclient
    · exact absurd hclient (hsilent u hu)
  refine count_of_gone hsound.after ?_ hover
  rw [after_append]
  exact hgone.after hsound.after hsilent

/-- From an empty server on, every counter has a limited time to live after each visit, and a client
that stays away for a whole window is counted from `1` again, exactly if no visit abandons the
counter that it makes. -/
theorem counters_expire_iff (visits : List Visit) :
    ((Desk.opened limit seconds s).Throughout (fun d v => (d.visit v).2.EachExpires) visits ∧
        (Desk.opened limit seconds s).SilenceForgets visits) ↔
      (Desk.opened limit seconds s).Throughout (fun d v => ¬ d.Abandons v) visits := by
  have hexpires : (Desk.opened limit seconds s).EachExpires := fun client e he => by
    simp [Desk.opened, hs] at he
  rw [← throughout_eachExpires_iff (sound_opened limit seconds hs) hexpires]
  exact ⟨fun h => h.1, fun h => ⟨h, silenceForgets_of_eachExpires limit seconds hs h⟩⟩

end Opened

/-- A server that is reached and keeps nothing yet. -/
def emptyServer : State := { State.start true 60 with client := some .connected }

/-- A client whose first counter is made but not limited, and that comes again after windows of ten
seconds are long over. -/
def expiryFailed : List Visit :=
  [⟨"a", 0, 0, { Outcomes.good with expire := false }⟩, ⟨"a", 100000000, 100, .good⟩]

/-- The counter has no limited time to live, and the client is counted on. -/
theorem not_counters_expire_expiryFailed :
    ¬ (Desk.opened 5 10 emptyServer).Throughout (fun d v => (d.visit v).2.EachExpires)
        expiryFailed ∧
      ¬ (Desk.opened 5 10 emptyServer).SilenceForgets expiryFailed ∧
      ((Desk.opened 5 10 emptyServer).counts expiryFailed).map (·.2) = [1, 2] := by
  refine ⟨fun h => ?_, fun h => ?_, by decide⟩
  · have hnone := h.1 "a" ⟨"1", none⟩ rfl
    simp at hnone
  · have hcount := h [⟨"a", 0, 0, { Outcomes.good with expire := false }⟩] []
      ⟨"a", 100000000, 100, .good⟩ [] rfl (by simp) (by decide) (by decide)
    revert hcount
    decide

/-- Two clients while commands fail and the connection is lost, but no counter is abandoned. -/
def commandsFailed : List Visit :=
  [⟨"a", 0, 0, { Outcomes.good with increment := false }⟩, ⟨"a", 1000000, 1, .good⟩,
    ⟨"a", 2000000, 1, { Outcomes.good with expire := false }⟩,
    ⟨"b", 3000000, 1, { Outcomes.good with check := false }⟩, ⟨"a", 13000000, 10, .good⟩]

theorem counters_expire_commandsFailed :
    (Desk.opened 5 10 emptyServer).Throughout (fun d v => (d.visit v).2.EachExpires)
        commandsFailed ∧
      (Desk.opened 5 10 emptyServer).SilenceForgets commandsFailed :=
  (counters_expire_iff 5 10 rfl commandsFailed).2 (by decide)

end AdminGrid.Cache
