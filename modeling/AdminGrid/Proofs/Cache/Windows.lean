import AdminGrid.Proofs.Cache.Visits

/-!
# Windows of the process

Where the server does not count, clients are counted in windows that are kept here.  A visit of any
client drops all windows that are over, so what is kept for a client depends on the others; what is
counted for it does not.  A window that was dropped was over for good, and a window that is still
kept when it is over begins anew at the next visit of its client.

So a client is counted as if it were alone: `1`, `2`, `3` and so on from the first visit of each of
its windows, and the first visits up to the limit are let in.
-/

namespace AdminGrid.Cache

/-- Times by windows of a given length: a window begins at the first time, and again at the first
one that is at least its length after the last begin. -/
def spans (length : Int) : List Int → List (List Int)
  | [] => []
  | t :: rest =>
      (t :: rest.takeWhile fun u => u < t + length) ::
        spans length (rest.dropWhile fun u => u < t + length)
termination_by times => times.length
decreasing_by exact Nat.lt_succ_of_le (List.dropWhile_sublist _).length_le

/-- What a client got of the results of a run. -/
def resultsOf {α : Type} (client : String) (results : List (Visit × α)) : List α :=
  (results.filter fun r => r.1.client = client).map (·.2)

/-- The visits of one client. -/
def visitsOf (client : String) (visits : List Visit) : List Visit :=
  visits.filter fun v => v.client = client

/-- Whether a visit is counted here: the server is not reached, or a command to it fails. -/
def Desk.CountsHere (d : Desk) (v : Visit) : Prop := (d.tryServer v).1 = none

instance (d : Desk) (v : Visit) : Decidable (d.CountsHere v) :=
  inferInstanceAs (Decidable ((d.tryServer v).1 = none))

section Alone

variable (l : Limiter)

/-- The counts of a client that is alone, from the window that is kept for it. -/
def Limiter.tally : Option Window → List Int → List Nat
  | _, [] => []
  | w, now :: rest => (l.advance now w).count :: tally (some (l.advance now w)) rest

theorem tally_none_cons (now : Int) (rest : List Int) :
    l.tally none (now :: rest) = 1 :: l.tally (some ⟨now, 1⟩) rest := rfl

/-- The visits of a window are counted on, and those after it as if nothing had been before. -/
theorem tally_some (begun : Int) (count : Nat) (times : List Int) :
    l.tally (some ⟨begun, count⟩) times =
      List.range' (count + 1)
          (times.takeWhile fun u => u < begun + l.seconds * Limiter.ticks).length ++
        l.tally none (times.dropWhile fun u => u < begun + l.seconds * Limiter.ticks) := by
  -- within a window only the count changes, so the begin stays fixed in the induction
  induction times generalizing count with
  | nil => rfl
  | cons now rest ih =>
      by_cases hnow : now < begun + l.seconds * Limiter.ticks
      · have hopen : l.isOver now begun = false := by
          simp only [Limiter.isOver, decide_eq_false_iff_not]
          omega
        rw [Limiter.tally, advance_of_open hopen, ih]
        simp [hnow, List.range'_succ]
      · have hover : l.isOver now begun = true := by
          simp only [Limiter.isOver, decide_eq_true_eq]
          omega
        rw [Limiter.tally, advance_of_over hover]
        simp [hnow, tally_none_cons]

theorem tally_none (times : List Int) :
    l.tally none times =
      (spans (l.seconds * Limiter.ticks) times).flatMap fun w => List.range' 1 w.length := by
  fun_induction spans (l.seconds * Limiter.ticks) times with
  | case1 => rfl
  | case2 now rest ih =>
      rw [tally_none_cons, tally_some, ih, List.flatMap_cons, List.length_cons, List.range'_succ]
      rfl

variable {l}

/-- The counts of a client depend on nothing of the limiter but the length of its windows. -/
theorem tally_congr {l' : Limiter} (h : l.seconds = l'.seconds) (w : Option Window)
    (times : List Int) : l.tally w times = l'.tally w times := by
  have hadvance : ∀ now w, l.advance now w = l'.advance now w := fun now w => by
    simp [Limiter.advance, Limiter.isOver, h]
  induction times generalizing w with
  | nil => rfl
  | cons now rest ih => rw [Limiter.tally, Limiter.tally, hadvance, ih]

end Alone

section Shared

variable {l : Limiter} {client : String} {w : Option Window} {since now : Int}

/-- Whether a limiter keeps a window for a client as long as it is not over: from a time on, what it
keeps and the window are either the same or both over. -/
def Limiter.Keeps (l : Limiter) (client : String) (w : Option Window) (since : Int) : Prop :=
  ∀ now, since ≤ now →
    (l.windows.get? (Limiter.clientKey client)).filter (fun x => !l.isOver now x.begun) =
      w.filter fun x => !l.isOver now x.begun

theorem Limiter.Keeps.advance_eq (h : l.Keeps client w since) (hnow : since ≤ now) :
    l.advance now (l.windows.get? (Limiter.clientKey client)) = l.advance now w := by
  unfold Limiter.advance
  rw [h now hnow]

/-- A window that is over stays over. -/
theorem isOver_mono {later begun : Int} (h : now ≤ later) (hover : l.isOver now begun = true) :
    l.isOver later begun = true := by
  simp only [Limiter.isOver, decide_eq_true_eq] at hover ⊢
  omega

theorem Limiter.Keeps.hitHere_self (h : l.Keeps client w since) (hnodup : l.windows.keys.Nodup)
    (hnow : since ≤ now) :
    (l.hitHere now (Limiter.clientKey client)).2.Keeps client (some (l.advance now w)) now := by
  intro later _
  rw [get?_windows_hitHere now _ hnodup, if_pos rfl, h.advance_eq hnow]

/-- A visit of another client may drop the window that is kept, but only once it is over. -/
theorem Limiter.Keeps.hitHere_other {other : String} (h : l.Keeps client w since)
    (hnodup : l.windows.keys.Nodup) (hnow : since ≤ now) (hne : other ≠ client) :
    (l.hitHere now (Limiter.clientKey other)).2.Keeps client w now := by
  intro later hlater
  have hkey : Limiter.clientKey other ≠ Limiter.clientKey client := by simpa using hne
  rw [get?_windows_hitHere now _ hnodup, if_neg hkey, isOver_hitHere,
    ← h later (Int.le_trans hnow hlater), Option.filter_filter]
  refine congrArg (fun p => Option.filter p _) (funext fun x => ?_)
  -- what the earlier visit drops, a later one drops anyway
  cases hover : l.isOver now x.begun with
  | false => simp
  | true => simp [isOver_mono hlater hover]

/-- In a run a client gets the counts of the window that is kept for it. -/
theorem resultsOf_counts {d : Desk} {visits : List Visit}
    (hkeeps : d.limiter.Keeps client w since) (hnodup : d.limiter.windows.keys.Nodup)
    (hsince : ∀ v ∈ visits, since ≤ v.now) (hsorted : visits.Pairwise fun u v => u.now ≤ v.now)
    (hhere : d.Throughout Desk.CountsHere visits) :
    resultsOf client (d.counts visits) =
      (d.limiter.tally w ((visitsOf client visits).map (·.now))).map Int.ofNat := by
  induction visits generalizing d w since with
  | nil => rfl
  | cons v rest ih =>
      obtain ⟨hv, hrest⟩ := hhere
      obtain ⟨hlater, hsorted⟩ := List.pairwise_cons.1 hsorted
      have hnow : since ≤ v.now := hsince v List.mem_cons_self
      obtain ⟨hcount, hlimiter⟩ := Desk.visit_of_here hv
      have hnodup' := Desk.nodup_windows_visit (v := v) hnodup
      have htally : (d.visit v).2.limiter.tally = d.limiter.tally := by
        funext w times
        exact tally_congr (Desk.seconds_visit d v) w times
      by_cases hclient : v.client = client
      · -- its own visit is counted in the window that is kept for it
        have hkeeps' : (d.visit v).2.limiter.Keeps client (some (d.limiter.advance v.now w))
            v.now := by
          rw [hlimiter, hclient]
          exact hkeeps.hitHere_self hnodup hnow
        have hfirst : (d.visit v).1 = Int.ofNat (d.limiter.advance v.now w).count := by
          rw [hcount, hitHere_eq _ _ hnodup, hclient, hkeeps.advance_eq hnow]
          rfl
        have hcounts := ih hkeeps' hnodup' hlater hsorted hrest
        rw [htally] at hcounts
        simp only [resultsOf, visitsOf] at hcounts ⊢
        simp [Desk.counts, hclient, hcounts, hfirst, Limiter.tally]
      · have hkeeps' : (d.visit v).2.limiter.Keeps client w v.now := by
          rw [hlimiter]
          exact hkeeps.hitHere_other hnodup hnow hclient
        have hcounts := ih hkeeps' hnodup' hlater hsorted hrest
        rw [htally] at hcounts
        simp only [resultsOf, visitsOf] at hcounts ⊢
        simp [Desk.counts, hclient, hcounts]

end Shared

section Admission

theorem map_fst_counts (d : Desk) (visits : List Visit) :
    (d.counts visits).map (·.1) = visits := by
  induction visits generalizing d with
  | nil => rfl
  | cons v rest ih => rw [Desk.counts, List.map_cons, ih]

theorem resultsOf_counts_visitsOf (client : String) (d : Desk) (visits : List Visit) :
    resultsOf client (d.counts (visitsOf client visits)) =
      (d.counts (visitsOf client visits)).map (·.2) := by
  have hown : ∀ r ∈ d.counts (visitsOf client visits), r.1.client = client := fun r hr => by
    have hmem : r.1 ∈ visitsOf client visits := by
      rw [← map_fst_counts d (visitsOf client visits)]
      exact List.mem_map_of_mem hr
    simpa using (List.mem_filter.1 hmem).2
  unfold resultsOf
  rw [List.filter_eq_self.2 fun r hr => by simpa using hown r hr]

/-- The answer to a visit with a count. -/
def Limiter.verdict (l : Limiter) (count : Int) : Attempt Unit :=
  if l.limit < count then .error l.refusal else .ok ()

theorem answers_eq (d : Desk) (visits : List Visit) :
    d.answers visits = (d.counts visits).map fun r => (r.1, d.limiter.verdict r.2) := by
  induction visits generalizing d with
  | nil => rfl
  | cons v rest ih =>
      have hverdict : (d.visit v).2.limiter.verdict = d.limiter.verdict := by
        rw [Desk.limiter_visit_eq]
        rfl
      rw [Desk.answers, Desk.counts, Desk.answer_eq, ih, hverdict]
      rfl

theorem resultsOf_answers (client : String) (d : Desk) (visits : List Visit) :
    resultsOf client (d.answers visits) =
      (resultsOf client (d.counts visits)).map d.limiter.verdict := by
  rw [answers_eq]
  simp [resultsOf, List.filter_map, Function.comp_def]

/-- Of the visits of a window those up to the limit are let in. -/
theorem map_verdict_range' (l : Limiter) (w : List Int) :
    (List.range' 1 w.length).map (fun n => l.verdict (Int.ofNat n)) =
      (w.take l.limit.toNat).map (fun _ => .ok ()) ++
        (w.drop l.limit.toNat).map fun _ => .error l.refusal := by
  refine List.ext_getElem (by simp; omega) fun i hi _ => ?_
  have hlength : i < w.length := by simpa using hi
  by_cases hlimit : i < l.limit.toNat
  · have hle : ¬ l.limit < 1 + (i : Int) := by omega
    have htaken : i < min l.limit.toNat w.length := by omega
    simp [Limiter.verdict, htaken, hle]
  · have hlt : l.limit < 1 + (i : Int) := by omega
    have hdropped : ¬ i < min l.limit.toNat w.length := by omega
    simp [List.getElem_append, Limiter.verdict, hdropped, hlt]

end Admission

/-- Where nobody has been counted yet. -/
def Desk.opened (limit seconds : Int) (s : State) : Desk := ⟨⟨limit, seconds, []⟩, s⟩

section Opened

variable (limit seconds : Int) (s alone : State) (visits : List Visit) (client : String)

/-- The counts of a client among all others, from the times at which it comes. -/
theorem resultsOf_counts_opened (hsorted : visits.Pairwise fun u v => u.now ≤ v.now)
    (hhere : (Desk.opened limit seconds s).Throughout Desk.CountsHere visits) :
    resultsOf client ((Desk.opened limit seconds s).counts visits) =
      (spans (seconds * Limiter.ticks) ((visitsOf client visits).map (·.now))).flatMap fun w =>
        (List.range' 1 w.length).map Int.ofNat := by
  have hkeeps : ∀ since, (Desk.opened limit seconds s).limiter.Keeps client none since :=
    fun _ _ _ => rfl
  have hnodup : (Desk.opened limit seconds s).limiter.windows.keys.Nodup := List.nodup_nil
  have hcounts : ∀ since, (∀ v ∈ visits, since ≤ v.now) →
      resultsOf client ((Desk.opened limit seconds s).counts visits) =
        ((Desk.opened limit seconds s).limiter.tally none
          ((visitsOf client visits).map (·.now))).map Int.ofNat := fun since hsince =>
    resultsOf_counts (hkeeps since) hnodup hsince hsorted hhere
  rw [tally_none, List.map_flatMap] at hcounts
  cases visits with
  | nil => exact hcounts 0 (by simp)
  | cons v rest =>
      refine hcounts v.now fun u hu => ?_
      rcases List.mem_cons.1 hu with rfl | hu
      · exact Int.le_refl _
      · exact (List.pairwise_cons.1 hsorted).1 u hu

/-- In a run whose visits come one after another in time and are counted here, a client gets the
counts that it gets alone.  They go up from `1` in each of its windows, and of each window the
visits up to the limit are let in. -/
theorem clients_counted_apart (hsorted : visits.Pairwise fun u v => u.now ≤ v.now)
    (hhere : (Desk.opened limit seconds s).Throughout Desk.CountsHere visits)
    (halone : (Desk.opened limit seconds alone).Throughout Desk.CountsHere
      (visitsOf client visits)) :
    resultsOf client ((Desk.opened limit seconds s).counts visits) =
        ((Desk.opened limit seconds alone).counts (visitsOf client visits)).map (·.2) ∧
      resultsOf client ((Desk.opened limit seconds s).counts visits) =
        ((spans (seconds * Limiter.ticks) ((visitsOf client visits).map (·.now))).flatMap fun w =>
          (List.range' 1 w.length).map Int.ofNat) ∧
      resultsOf client ((Desk.opened limit seconds s).answers visits) =
        (spans (seconds * Limiter.ticks) ((visitsOf client visits).map (·.now))).flatMap fun w =>
          (w.take limit.toNat).map (fun _ => .ok ()) ++
            (w.drop limit.toNat).map fun _ =>
              .error (.status 429 "Too many requests" (some (toString seconds))) := by
  have hcounts := resultsOf_counts_opened limit seconds s visits client hsorted hhere
  have hsolo := resultsOf_counts_opened limit seconds alone (visitsOf client visits) client
    (hsorted.filter _) halone
  rw [resultsOf_counts_visitsOf] at hsolo
  refine ⟨?_, hcounts, ?_⟩
  · rw [hcounts, hsolo]
    simp [visitsOf]
  · rw [resultsOf_answers, hcounts, List.map_flatMap]
    refine congrArg (List.flatMap · _) (funext fun w => ?_)
    rw [List.map_map]
    exact map_verdict_range' (Desk.opened limit seconds s).limiter w

end Opened

/-- Two clients with windows of ten seconds, while the server refuses to count. -/
def twoClients : List Visit :=
  let refused : Outcomes := { Outcomes.good with increment := false }
  [⟨"a", 0, 0, refused⟩, ⟨"b", 1000000, 1, refused⟩, ⟨"a", 5000000, 4, refused⟩,
    ⟨"a", 9999999, 4, refused⟩, ⟨"b", 12000000, 3, refused⟩, ⟨"a", 13000000, 1, refused⟩]

/-- The visit of the second client drops the window of the first, which begins anew. -/
theorem counted_apart_twoClients :
    resultsOf "a" ((Desk.opened 2 10 { State.start true 60 with client := some .connected }).counts
        twoClients) = [1, 2, 3, 1] ∧
      resultsOf "a" ((Desk.opened 2 10
          { State.start true 60 with client := some .connected }).answers twoClients) =
        [.ok (), .ok (), .error (.status 429 "Too many requests" (some (toString (10 : Int)))),
          .ok ()] := by
  obtain ⟨-, hcounts, hanswers⟩ := clients_counted_apart 2 10
    { State.start true 60 with client := some .connected } (State.start false 60) twoClients "a"
    (by decide) (by decide) (by decide)
  have hspans : spans (10 * Limiter.ticks) ((visitsOf "a" twoClients).map (·.now)) =
      [[0, 5000000, 9999999], [13000000]] := by
    simp [visitsOf, twoClients, spans, Limiter.ticks]
  rw [hspans] at hcounts hanswers
  exact ⟨hcounts, hanswers⟩

end AdminGrid.Cache
