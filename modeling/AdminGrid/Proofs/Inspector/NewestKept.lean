import AdminGrid.Proofs.Inspector.Storing

/-!
# The newest artifacts are kept

Artifacts are stored one after the other, each with a file that is newer than those that are there
and less than a day behind the clock, and no operation on files fails.  What a store evicts is then
older than all that it leaves, and what it leaves only makes room for newer artifacts.  So what was
evicted at any time is older than all that remains: this is carried over a run by `Outdone`.
-/

namespace AdminGrid.Inspector

open Disk

/-- What is to be stored, and the occasion. -/
structure Submission where
  occasion : Occasion
  diagnostic : ParityDiagnostic
  extra : Entries Value

/-- Stores what is submitted. -/
def Submission.store (s : Submission) (c : Config) : OnDisk (Option Path) :=
  Inspector.store c s.occasion s.diagnostic s.extra

/-- The disk after a run of submissions. -/
def storeAll (c : Config) (run : List Submission) (d : Disk) : Disk :=
  run.foldl (fun d s => (s.store c d).2) d

/-- Whether no operation fails, no two files are at one path, and no two artifacts are equally
old. -/
structure Orderly (c : Config) (d : Disk) : Prop where
  faultless : d.failures = []
  distinct : d.Distinct
  apart : ∀ f ∈ c.artifacts d, ∀ g ∈ c.artifacts d, f.time = g.time → f = g

/-- Whether what is submitted gets a file that is newer than all artifacts and less than a day
behind the clock, and a temporary name that no other file has. -/
structure Timely (c : Config) (s : Submission) (d : Disk) : Prop where
  latest : ∀ f ∈ c.artifacts d, f.time < s.occasion.fileTime
  recent : s.occasion.now - 86400 < s.occasion.fileTime
  fresh : ∀ f ∈ d.files, f.path ≠ temporary c s.occasion

/-- Whether each submission of a run is timely when it is stored. -/
def TimelyRun (c : Config) : List Submission → Disk → Prop
  | [], _ => True
  | s :: rest, d => Timely c s d ∧ TimelyRun c rest (s.store c d).2

/-- Whether an artifact that was listed before a submission of a run was stored is not listed
afterwards. -/
def Evicted (c : Config) (g : File) : List Submission → Disk → Prop
  | [], _ => False
  | s :: rest, d =>
      (g ∈ c.artifacts d ∧ ∀ f ∈ c.artifacts (s.store c d).2, f.path ≠ g.path) ∨
        Evicted c g rest (s.store c d).2

/-- Whether artifacts remain, all of them newer than a time. -/
structure Outdone (c : Config) (time : Int) (d : Disk) : Prop where
  remaining : ∃ f, f ∈ c.artifacts d
  newer : ∀ f ∈ c.artifacts d, time < f.time

variable {c : Config} {s : Submission} {d : Disk}

theorem Orderly.pairwise (h : Orderly c d) :
    (c.artifacts d).Pairwise fun f g => g.time < f.time := by
  have hne : (c.artifacts d).Pairwise fun f g => f ≠ g := (c.nodup_artifacts h.distinct).of_map
  refine ((c.pairwise_artifacts d).and hne).imp_of_mem fun {f g} hf hg hboth => ?_
  refine lt_of_le_of_ne hboth.1 fun htime => hboth.2 ?_
  exact h.apart f hf g hg htime.symm

/-- What a store did to a listing: it came to hold a new artifact, and either all others stay or
those that are evicted do not. -/
structure Grows (c : Config) (s : Submission) (d d' : Disk) (new : File) (gone : List File) :
    Prop where
  listed : c.lists new = true
  time : new.time = s.occasion.fileTime
  listing : c.artifacts d' =
    (c.artifacts (d.put new)).filter fun f => f.path ∉ gone.map (·.path)
  policy : gone = [] ∨ gone = c.evicted s.occasion.now (c.artifacts (d.put new))

/-- The new artifact is newer than all others, which are orderly together with it. -/
theorem Orderly.put {new : File} (h : Orderly c d) (ht : Timely c s d)
    (hlisted : c.lists new = true) (htime : new.time = s.occasion.fileTime) :
    Orderly c (d.put new) := by
  refine ⟨h.faultless, distinct_put h.distinct new, fun f hf g hg hsame => ?_⟩
  rw [c.mem_artifacts_put hlisted] at hf hg
  rcases hf with rfl | ⟨hf, -⟩ <;> rcases hg with rfl | ⟨hg, -⟩
  · rfl
  · have := ht.latest g hg
    omega
  · have := ht.latest f hf
    omega
  · exact h.apart f hf g hg hsame

section Policy

variable {d' : Disk} {new : File} {gone : List File}

theorem Grows.mem_iff (h : Grows c s d d' new gone) {f : File} :
    f ∈ c.artifacts d' ↔ f ∈ c.artifacts (d.put new) ∧ f.path ∉ gone.map (·.path) := by
  rw [h.listing, List.mem_filter, decide_eq_true_eq]

theorem Grows.gone_subset (h : Grows c s d d' new gone) : gone ⊆ c.artifacts (d.put new) := by
  rcases h.policy with rfl | rfl
  · exact List.nil_subset _
  · exact c.evicted_subset

/-- What leaves a listing is told by its path. -/
theorem Grows.mem_gone_iff (h : Grows c s d d' new gone) (horderly : Orderly c d) {f : File}
    (hf : f ∈ c.artifacts (d.put new)) : f.path ∈ gone.map (·.path) ↔ f ∈ gone := by
  refine ⟨fun hpath => ?_, List.mem_map_of_mem⟩
  obtain ⟨g, hg, hpath⟩ := List.mem_map.1 hpath
  rwa [← (distinct_put horderly.distinct new).eq_of_path_eq
    (c.mem_artifacts.1 (h.gone_subset hg)).1 (c.mem_artifacts.1 hf).1 hpath]

/-- The new artifact stays. -/
theorem Grows.new_mem (hmax : 1 ≤ c.maxFiles) (hdays : 1 ≤ c.cleanupDays)
    (horderly : Orderly c d) (ht : Timely c s d) (h : Grows c s d d' new gone) :
    new ∈ c.artifacts d' := by
  have hmem : new ∈ c.artifacts (d.put new) := (c.mem_artifacts_put h.listed).2 (.inl rfl)
  rw [h.mem_iff, h.mem_gone_iff horderly hmem]
  refine ⟨hmem, ?_⟩
  rcases h.policy with rfl | rfl
  · exact List.not_mem_nil
  · refine c.newest_not_mem_evicted hmax (horderly.put ht h.listed h.time).pairwise ?_ ?_
    · intro g hg
      rcases (c.mem_artifacts_put h.listed).1 hg with rfl | ⟨hg, -⟩
      · exact Int.le_refl _
      · rw [h.time]
        exact Int.le_of_lt (ht.latest g hg)
    · have := ht.recent
      have := h.time
      rw [Config.expiry]
      omega

/-- What a store evicts is outdone by what it leaves. -/
theorem Grows.outdone_of_evicted (hmax : 1 ≤ c.maxFiles) (hdays : 1 ≤ c.cleanupDays)
    (horderly : Orderly c d) (ht : Timely c s d) (h : Grows c s d d' new gone) {g : File}
    (hg : g ∈ c.artifacts d) (hleft : ∀ f ∈ c.artifacts d', f.path ≠ g.path) :
    Outdone c g.time d' := by
  have hnew := h.new_mem hmax hdays horderly ht
  -- the new artifact has not taken its place, for then its path would still be listed
  have hmem : g ∈ c.artifacts (d.put new) :=
    (c.mem_artifacts_put h.listed).2 (.inr ⟨hg, fun hpath => hleft new hnew hpath.symm⟩)
  have hgone : g ∈ gone := by
    rw [← h.mem_gone_iff horderly hmem]
    by_contra hstays
    exact hleft g (h.mem_iff.2 ⟨hmem, hstays⟩) rfl
  refine ⟨⟨new, hnew⟩, fun f hf => ?_⟩
  obtain ⟨hf, hstays⟩ := h.mem_iff.1 hf
  rw [h.mem_gone_iff horderly hf] at hstays
  rcases h.policy with rfl | rfl
  · cases hgone
  · exact c.time_lt_of_evicted (horderly.put ht h.listed h.time).pairwise hf hstays hgone

/-- What is outdone stays so. -/
theorem Grows.outdone (hmax : 1 ≤ c.maxFiles) (hdays : 1 ≤ c.cleanupDays)
    (horderly : Orderly c d) (ht : Timely c s d) (h : Grows c s d d' new gone) {time : Int}
    (houtdone : Outdone c time d) : Outdone c time d' := by
  refine ⟨⟨new, h.new_mem hmax hdays horderly ht⟩, fun f hf => ?_⟩
  rcases (c.mem_artifacts_put h.listed).1 (h.mem_iff.1 hf).1 with rfl | ⟨hf, -⟩
  · -- the new artifact is newer than one that was there, which is newer than the time
    obtain ⟨g, hg⟩ := houtdone.remaining
    rw [h.time]
    exact Int.lt_trans (houtdone.newer g hg) (ht.latest g hg)
  · exact houtdone.newer f hf

theorem Grows.orderly (horderly : Orderly c d) (ht : Timely c s d)
    (h : Grows c s d d' new gone) (hfaultless : d'.failures = []) (hdistinct : d'.Distinct) :
    Orderly c d' := by
  refine ⟨hfaultless, hdistinct, fun f hf g hg => ?_⟩
  exact (horderly.put ht h.listed h.time).apart f (h.mem_iff.1 hf).1 g (h.mem_iff.1 hg).1

end Policy

theorem filter_not_mem_nil (files : List File) :
    (files.filter fun f => f.path ∉ ([] : List File).map (·.path)) = files :=
  List.filter_eq_self.2 fun _ _ => decide_eq_true List.not_mem_nil

section Step

variable {content : String}

theorem Orderly.grows_of_abandons (henabled : c.enabled = true) (h : Orderly c d)
    (ha : Abandons c s.occasion s.diagnostic s.extra content d) :
    (s.store c d).1 = none ∧
      Grows c s d (s.store c d).2 (temporaryFile c s.occasion content) [] ∧
      (s.store c d).2.failures = [] ∧ (s.store c d).2.Distinct := by
  rw [Submission.store, Inspector.store_of_abandons henabled ha]
  refine ⟨rfl, ⟨lists_temporaryFile, rfl, ?_, .inl rfl⟩, failures_passed_of_nil h.faultless 4, ?_⟩
  · have hlisting : c.artifacts (placed c (temporaryFile c s.occasion content) 4 d) =
        c.artifacts (d.put (temporaryFile c s.occasion content)) := c.artifacts_congr rfl
    rw [hlisting, filter_not_mem_nil]
  · exact distinct_put (d := (d.passed 4).withFolder c.storagePath) h.distinct _

theorem Orderly.grows_of_names (henabled : c.enabled = true) (h : Orderly c d)
    (ht : Timely c s d) (hn : Names c s.occasion s.diagnostic s.extra content d) :
    (∃ gone, Grows c s d (s.store c d).2 (artifactFile c s.occasion s.diagnostic content) gone ∧
      ∀ path, (s.store c d).1 = some path → path = target c s.occasion s.diagnostic ∧
        gone = c.evicted s.occasion.now
          (c.artifacts (d.put (artifactFile c s.occasion s.diagnostic content)))) ∧
      (s.store c d).2.failures = [] ∧ (s.store c d).2.Distinct := by
  have hdistinct : (named c s.occasion s.diagnostic content d).Distinct :=
    distinct_named _ _ _ _ h.distinct
  have hfaultless : (named c s.occasion s.diagnostic content d).failures = [] :=
    failures_passed_of_nil h.faultless 5
  have hnamed : c.artifacts (named c s.occasion s.diagnostic content d) =
      c.artifacts (d.put (artifactFile c s.occasion s.diagnostic content)) := c.artifacts_congr rfl
  obtain ⟨paths, -, hclears⟩ := retain_clears c s.occasion.now hdistinct
  rw [Submission.store, Inspector.store_of_names henabled ht.fresh hn]
  refine ⟨?_, (hclears.all hfaultless).2, hclears.distinct hdistinct⟩
  cases hanswer : (retain c s.occasion.now (named c s.occasion s.diagnostic content d)).1 with
  | true =>
      have hloses := loses_evicted_of_retain c s.occasion.now hdistinct hfaultless hanswer
      simp only [hanswer, if_true]
      refine ⟨_, ⟨lists_artifactFile, rfl, ?_, .inr rfl⟩, fun path hpath => ⟨?_, rfl⟩⟩
      · rw [← hnamed]
        exact c.artifacts_of_loses hloses
      · exact (Option.some.inj hpath).symm
  | false =>
      simp only [hanswer, Bool.false_eq_true, if_false]
      refine ⟨[], ⟨lists_artifactFile, rfl, ?_, .inl rfl⟩, nofun⟩
      rw [← hnamed, filter_not_mem_nil]
      exact c.artifacts_congr (files_retain_of_not_isOk c s.occasion.now hdistinct hanswer)

end Step

/-- A store leaves things orderly, and it changes the listing, if at all, by what is new in it and
what is evicted. -/
theorem Orderly.store (henabled : c.enabled = true) (h : Orderly c d) (ht : Timely c s d) :
    Orderly c (s.store c d).2 ∧
      ((s.store c d).1 = none ∧ c.artifacts (s.store c d).2 = c.artifacts d ∨
        ∃ new gone, Grows c s d (s.store c d).2 new gone ∧
          ∀ path, (s.store c d).1 = some path → new.path = path ∧
            storedText? c s.occasion s.diagnostic s.extra = some new.content ∧
            gone = c.evicted s.occasion.now (c.artifacts (d.put new))) := by
  by_cases habandons : ∃ content, Abandons c s.occasion s.diagnostic s.extra content d
  · obtain ⟨content, ha⟩ := habandons
    obtain ⟨hanswer, hgrows, hfaultless, hdistinct⟩ := h.grows_of_abandons henabled ha
    refine ⟨hgrows.orderly h ht hfaultless hdistinct, .inr ⟨_, _, hgrows, ?_⟩⟩
    rw [hanswer]
    exact nofun
  · by_cases hnames : ∃ content, Names c s.occasion s.diagnostic s.extra content d
    · obtain ⟨content, hn⟩ := hnames
      obtain ⟨⟨gone, hgrows, hgone⟩, hfaultless, hdistinct⟩ := h.grows_of_names henabled ht hn
      refine ⟨hgrows.orderly h ht hfaultless hdistinct,
        .inr ⟨_, gone, hgrows, fun path hpath => ?_⟩⟩
      obtain ⟨rfl, hgone⟩ := hgone path hpath
      exact ⟨rfl, hn.writes.text, hgone⟩
    · obtain ⟨hanswer, hclears⟩ := store_of_not_names henabled ht.fresh
        (not_exists.1 habandons) (not_exists.1 hnames)
      have hlisting := c.artifacts_congr hclears.files_eq
      refine ⟨⟨(hclears.all h.faultless).2, hclears.distinct h.distinct, ?_⟩,
        .inl ⟨hanswer, hlisting⟩⟩
      rw [Submission.store, hlisting]
      exact h.apart

section Run

variable {run : List Submission}

/-- What is outdone stays so over a run. -/
theorem Outdone.storeAll (henabled : c.enabled = true) (hmax : 1 ≤ c.maxFiles)
    (hdays : 1 ≤ c.cleanupDays) (h : Orderly c d) (ht : TimelyRun c run d) {time : Int}
    (houtdone : Outdone c time d) : Outdone c time (storeAll c run d) := by
  induction run generalizing d with
  | nil => exact houtdone
  | cons s rest ih =>
      obtain ⟨horderly, ⟨-, hsame⟩ | ⟨new, gone, hgrows, -⟩⟩ := h.store henabled ht.1
      · refine ih horderly ht.2 ⟨?_, ?_⟩
        · rw [hsame]
          exact houtdone.remaining
        · rw [hsame]
          exact houtdone.newer
      · exact ih horderly ht.2 (hgrows.outdone hmax hdays h ht.1 houtdone)

theorem Orderly.storeAll (henabled : c.enabled = true) (h : Orderly c d)
    (ht : TimelyRun c run d) : Orderly c (storeAll c run d) := by
  induction run generalizing d with
  | nil => exact h
  | cons s rest ih => exact ih (h.store henabled ht.1).1 ht.2

/-- What was evicted in a run is outdone by what remains after it. -/
theorem outdone_of_evicted (henabled : c.enabled = true) (hmax : 1 ≤ c.maxFiles)
    (hdays : 1 ≤ c.cleanupDays) (h : Orderly c d) (ht : TimelyRun c run d) {g : File}
    (hg : Evicted c g run d) : Outdone c g.time (storeAll c run d) := by
  induction run generalizing d with
  | nil => exact hg.elim
  | cons s rest ih =>
      obtain ⟨horderly, hstep⟩ := h.store henabled ht.1
      rcases hg with ⟨hlisted, hleft⟩ | hlater
      · -- what is evicted by the first store is outdone at once, and stays so
        refine Outdone.storeAll henabled hmax hdays horderly ht.2 ?_
        rcases hstep with ⟨-, hsame⟩ | ⟨new, gone, hgrows, -⟩
        · rw [hsame] at hleft
          exact absurd rfl (hleft g hlisted)
        · exact hgrows.outdone_of_evicted hmax hdays h ht.1 hlisted hleft
      · exact ih horderly ht.2 hlater

theorem timelyRun_append {past : List Submission} :
    TimelyRun c (past ++ run) d ↔ TimelyRun c past d ∧ TimelyRun c run (storeAll c past d) := by
  induction past generalizing d with
  | nil => exact (true_and _).symm ▸ Iff.rfl
  | cons s rest ih =>
      show Timely c s d ∧ TimelyRun c (rest ++ run) _ ↔ (Timely c s d ∧ TimelyRun c rest _) ∧ _
      rw [ih, and_assoc]
      rfl

end Run

/-- Whether a run of stores keeps the newest artifacts, after its last store answered a path: there
are not too many of them, the stored one is among them, all are newer than those that were evicted,
and none is evicted now unless there were too many. -/
structure KeepsNewest (c : Config) (past : List Submission) (s : Submission) (path : Path)
    (d : Disk) : Prop where
  count : ((c.artifacts (storeAll c (past ++ [s]) d)).length : Int) ≤ c.maxFiles
  newer : ∀ g, Evicted c g (past ++ [s]) d →
    ∀ f ∈ c.artifacts (storeAll c (past ++ [s]) d), g.time < f.time
  stored : ∃ new : File, new.path = path ∧ new.time = s.occasion.fileTime ∧
    storedText? c s.occasion s.diagnostic s.extra = some new.content ∧
    new ∈ c.artifacts (storeAll c (past ++ [s]) d) ∧
    (((c.artifacts ((storeAll c past d).put new)).length : Int) ≤ c.maxFiles →
      c.artifacts (storeAll c (past ++ [s]) d) = c.artifacts ((storeAll c past d).put new))

/-- Retention keeps the newest artifacts. -/
theorem newest_kept {past : List Submission} {path : Path} (henabled : c.enabled = true)
    (hmax : 1 ≤ c.maxFiles) (hdays : 1 ≤ c.cleanupDays) (h : Orderly c d)
    (ht : TimelyRun c (past ++ [s]) d)
    (hanswer : (s.store c (storeAll c past d)).1 = some path) : KeepsNewest c past s path d := by
  obtain ⟨hpast, hs, -⟩ := timelyRun_append.1 ht
  have horderly := h.storeAll henabled hpast
  have hlast : storeAll c (past ++ [s]) d = (s.store c (storeAll c past d)).2 := by
    rw [storeAll, List.foldl_append]
    rfl
  obtain ⟨-, ⟨hnone, -⟩ | ⟨new, gone, hgrows, hnew⟩⟩ := horderly.store henabled hs
  · rw [hnone] at hanswer
    cases hanswer
  · obtain ⟨hpath, htext, rfl⟩ := hnew path hanswer
    refine ⟨?_, fun g hg => (outdone_of_evicted henabled hmax hdays h ht hg).newer, new, hpath,
      hgrows.time, htext, ?_, fun hfew => ?_⟩
    · rw [hlast, hgrows.listing]
      exact c.length_stay_le (by omega) (c.nodup_artifacts (distinct_put horderly.distinct new))
    · rw [hlast]
      exact hgrows.new_mem hmax hdays horderly hs
    · rw [hlast, hgrows.listing, c.evicted_of_le hfew]
      exact filter_not_mem_nil _

/-- A disk with two artifacts. -/
def twoKept : Disk := ⟨[], [⟨.of "artifacts/a.json", "", 1⟩, ⟨.of "artifacts/b.json", "", 2⟩], []⟩

/-- The diagnostic of a table, ten seconds later. -/
def ordersAtTen : Submission := ⟨atTen, agreement "orders", []⟩

theorem orderly_twoKept : Orderly keepsTwo twoKept := by
  refine ⟨rfl, by unfold Disk.Distinct; decide, fun f hf g hg => ?_⟩
  have hfiles : ∀ f ∈ twoKept.files, ∀ g ∈ twoKept.files, f.time = g.time → f = g := by
    simp [twoKept]
  exact hfiles f (keepsTwo.mem_artifacts.1 hf).1 g (keepsTwo.mem_artifacts.1 hg).1

theorem timely_ordersAtTen : Timely keepsTwo ordersAtTen twoKept := by
  refine ⟨fun f hf => ?_, by decide, by decide⟩
  have hfiles : ∀ f ∈ twoKept.files, f.time < ordersAtTen.occasion.fileTime := by decide
  exact hfiles f (keepsTwo.mem_artifacts.1 hf).1

theorem newest_kept_ordersAtTen :
    Orderly keepsTwo twoKept ∧ TimelyRun keepsTwo ([] ++ [ordersAtTen]) twoKept ∧
      (ordersAtTen.store keepsTwo twoKept).1 = some (.of "artifacts/orders_10.json") ∧
      KeepsNewest keepsTwo [] ordersAtTen (.of "artifacts/orders_10.json") twoKept := by
  obtain ⟨content, hwrites⟩ := exists_writes_agreement "orders" twoKept rfl (by decide)
    (by decide +kernel)
  have hnames : Names keepsTwo atTen (agreement "orders") [] content twoKept :=
    ⟨hwrites, by decide, by decide, serves_of_nil rfl 5⟩
  have hanswer : (ordersAtTen.store keepsTwo twoKept).1 = some (.of "artifacts/orders_10.json") :=
    (store_of_datable rfl orderly_twoKept.distinct timely_ordersAtTen.fresh hnames
      keepsTwo_datable rfl).trans (by decide)
  have htimely : TimelyRun keepsTwo ([] ++ [ordersAtTen]) twoKept := ⟨timely_ordersAtTen, trivial⟩
  exact ⟨orderly_twoKept, htimely, hanswer,
    newest_kept rfl (by decide) (by decide) orderly_twoKept htimely hanswer⟩

end AdminGrid.Inspector
