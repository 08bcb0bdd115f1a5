import AdminGrid.Inspector.Archive
import AdminGrid.Proofs.Disk
import AdminGrid.Proofs.Number.Range
import AdminGrid.Proofs.Store.RowOrder

/-!
# Retention

The listing of a disk holds its artifacts, the newest first, each of them once.  Which of them are
evicted is told by the listing and the time alone: none as long as there are not too many, and
otherwise those of a certain age and the oldest beyond the number that is kept.  Whatever operation
fails, no other artifact is lost, and where none fails all of these are.
-/

namespace AdminGrid.Inspector

/-- Whether a file counts as an artifact: by its folder and by the ending of its name. -/
def Config.lists (c : Config) (f : File) : Bool :=
  f.path.parent == c.storagePath && Text.endsWith ending f.path.name

/-- Whether the first of two files stands before the second in a listing. -/
def listsBefore (f g : File) : Bool := g.time ≤ f.time

theorem listsBefore_trans (f g h : File) (hfg : listsBefore f g = true)
    (hgh : listsBefore g h = true) : listsBefore f h = true := by
  simp only [listsBefore, decide_eq_true_eq] at *
  exact Int.le_trans hgh hfg

theorem listsBefore_total (f g : File) : (listsBefore f g || listsBefore g f) = true := by
  simp only [listsBefore, Bool.or_eq_true, decide_eq_true_eq]
  exact Int.le_total _ _

variable (c : Config) {d d' : Disk} {gone : List Path} {f g : File}

theorem Config.artifacts_eq (d : Disk) :
    c.artifacts d = (d.files.filter c.lists).mergeSort listsBefore := by
  have hlists : (fun f : File =>
      Text.endsWith ending f.path.name && f.path.parent == c.storagePath) = c.lists :=
    funext fun f => Bool.and_comm _ _
  rw [Config.artifacts, Disk.filesIn, List.filter_filter, hlists]
  rfl

@[simp]
theorem Config.mem_artifacts : f ∈ c.artifacts d ↔ f ∈ d.files ∧ c.lists f = true := by
  rw [c.artifacts_eq, List.mem_mergeSort, List.mem_filter]

theorem Config.artifacts_congr (h : d'.files = d.files) : c.artifacts d' = c.artifacts d := by
  rw [c.artifacts_eq, c.artifacts_eq, h]

/-- The newest artifacts come first. -/
theorem Config.pairwise_artifacts (d : Disk) :
    (c.artifacts d).Pairwise fun f g => g.time ≤ f.time := by
  rw [c.artifacts_eq]
  refine (List.pairwise_mergeSort listsBefore_trans listsBefore_total _).imp fun h => ?_
  exact of_decide_eq_true h

/-- No two artifacts of a listing are at one path. -/
theorem Config.nodup_artifacts (hd : d.Distinct) : ((c.artifacts d).map (·.path)).Nodup := by
  rw [c.artifacts_eq, ((List.mergeSort_perm _ _).map _).nodup_iff]
  exact hd.sublist (List.filter_sublist.map _)

/-- What is lost is lost from the listing. -/
theorem Config.artifacts_of_loses (h : d.Loses gone d') :
    c.artifacts d' = (c.artifacts d).filter fun f => f.path ∉ gone := by
  rw [c.artifacts_eq, c.artifacts_eq, h, List.filter_comm]
  exact Store.mergeSort_filter listsBefore_trans listsBefore_total _ _

/-- With one more artifact a listing holds this one and the others that it held at other paths. -/
theorem Config.mem_artifacts_put (hg : c.lists g = true) :
    f ∈ c.artifacts (d.put g) ↔ f = g ∨ f ∈ c.artifacts d ∧ f.path ≠ g.path := by
  simp only [c.mem_artifacts, Disk.put, List.mem_append, List.mem_filter, List.mem_singleton,
    bne_iff_ne]
  constructor
  · rintro ⟨⟨hf, hne⟩ | rfl, hlists⟩
    · exact .inr ⟨⟨hf, hlists⟩, hne⟩
    · exact .inl rfl
  · rintro (rfl | ⟨⟨hf, hlists⟩, hne⟩)
    · exact ⟨.inr rfl, hg⟩
    · exact ⟨.inl ⟨hf, hne⟩, hlists⟩

section Items

variable {α : Type} {limit : Int} {items : List α}

theorem upTo_append_beyond (limit : Int) (items : List α) :
    upTo limit items ++ beyond limit items = items :=
  List.take_append_drop _ _

theorem length_upTo_le (h : 0 ≤ limit) : ((upTo limit items).length : Int) ≤ limit := by
  rw [upTo, if_neg (Int.not_lt.2 h), List.length_take]
  omega

theorem beyond_eq_nil (h : (items.length : Int) ≤ limit) : beyond limit items = [] := by
  rw [beyond, if_neg (by omega), List.drop_eq_nil_of_le (by omega)]

/-- What is beyond a number has something before it. -/
theorem exists_mem_upTo {item : α} (h : 1 ≤ limit) (hitem : item ∈ beyond limit items) :
    ∃ first, first ∈ upTo limit items := by
  cases items with
  | nil => simp [beyond] at hitem
  | cons first rest =>
      refine ⟨first, ?_⟩
      rw [upTo, if_neg (by omega), show limit.toNat = (limit - 1).toNat + 1 by omega,
        List.take_succ_cons]
      exact List.mem_cons_self

/-- Of more items more are beyond a number, but no others of the first. -/
theorem mem_beyond_append {item : α} {more : List α} (h : item ∈ beyond limit (items ++ more)) :
    item ∈ beyond limit items ∨ item ∈ more := by
  rw [beyond, List.drop_append, List.mem_append] at h
  refine h.imp (fun hfirst => ?_) List.mem_of_mem_drop
  -- a negative number counts from the end, which is further away with more items
  have hle : (if limit < 0 then limit + items.length else limit).toNat ≤
      (if limit < 0 then limit + (items ++ more).length else limit).toNat := by
    rw [List.length_append]
    split_ifs <;> omega
  exact List.drop_subset_drop_left items hle hfirst

end Items

theorem time_lt_of_mem_beyond {limit : Int} {files : List File}
    (h : files.Pairwise fun f g => g.time < f.time) (hf : f ∈ upTo limit files)
    (hg : g ∈ beyond limit files) : g.time < f.time := by
  rw [← upTo_append_beyond limit files, List.pairwise_append] at h
  exact h.2.2 f hf g hg

/-- The files that were last changed before a time. -/
def older (time : Int) (files : List File) : List File := files.filter fun f => f.time < time

/-- The files that were not last changed before a time. -/
def younger (time : Int) (files : List File) : List File := files.filter fun f => time ≤ f.time

/-- What was changed before a time is at the end of files that are in order. -/
theorem younger_append_older {files : List File} (time : Int)
    (h : files.Pairwise fun f g => g.time ≤ f.time) :
    younger time files ++ older time files = files := by
  induction h with
  | nil => rfl
  | @cons f rest hf _ ih =>
      by_cases hold : f.time < time
      · -- all that follows an old file is old
        have hrest : younger time rest = [] := List.filter_eq_nil_iff.2 fun g hg => by
          have hle := hf g hg
          simp only [decide_eq_true_eq]
          omega
        rw [hrest, List.nil_append] at ih
        rw [younger, List.filter_cons_of_neg (by simpa using hold), ← younger, hrest, older,
          List.filter_cons_of_pos (by simpa using hold), ← older, ih, List.nil_append]
      · rw [younger, List.filter_cons_of_pos (by simpa using hold), older,
          List.filter_cons_of_neg (by simpa using hold), ← younger, ← older, List.cons_append, ih]

theorem filter_not_mem_older (time : Int) {files : List File}
    (hpaths : (files.map (·.path)).Nodup) :
    (files.filter fun f => f.path ∉ (older time files).map (·.path)) = younger time files := by
  refine List.filter_congr fun f hf => Bool.eq_iff_iff.2 ?_
  simp only [decide_eq_true_eq]
  constructor
  · intro hstays
    by_contra hold
    exact hstays (List.mem_map_of_mem (List.mem_filter.2 ⟨hf, by simpa using hold⟩))
  · intro hyoung hgone
    obtain ⟨g, hg, hpath⟩ := List.mem_map.1 hgone
    obtain ⟨hmem, hold⟩ := List.mem_filter.1 hg
    rw [List.inj_on_of_nodup_map hpaths hmem hf hpath] at hold
    simp only [decide_eq_true_eq] at hold
    omega

/-- The time before which artifacts are old enough to be removed. -/
def Config.expiry (now : Int) : Int := now - c.cleanupDays * 86400

/-- The artifacts of a listing that do not stay. -/
def Config.evicted (now : Int) (found : List File) : List File :=
  if (found.length : Int) ≤ c.maxFiles then []
  else older (c.expiry now) found ++ beyond c.maxFiles (younger (c.expiry now) found)

theorem Config.evicted_of_le {now : Int} {found : List File}
    (h : (found.length : Int) ≤ c.maxFiles) : c.evicted now found = [] := if_pos h

theorem Config.evicted_of_lt {now : Int} {found : List File}
    (h : c.maxFiles < (found.length : Int)) :
    c.evicted now found =
      older (c.expiry now) found ++ beyond c.maxFiles (younger (c.expiry now) found) :=
  if_neg (Int.not_le.2 h)

section Policy

variable {now : Int} {found : List File}

theorem Config.evicted_subset : c.evicted now found ⊆ found := by
  rw [Config.evicted]
  split_ifs
  · exact List.nil_subset _
  · exact List.append_subset.2 ⟨List.filter_subset_self _,
      fun f hf => List.mem_of_mem_filter (List.mem_of_mem_drop hf)⟩

/-- Where there are too many artifacts, those that stay are the first of the young ones. -/
theorem Config.mem_upTo_of_stays (hlt : c.maxFiles < (found.length : Int)) {f : File}
    (hf : f ∈ found) (hstays : f ∉ c.evicted now found) :
    f ∈ upTo c.maxFiles (younger (c.expiry now) found) := by
  rw [c.evicted_of_lt hlt, List.mem_append, not_or] at hstays
  have hyoung : f ∈ younger (c.expiry now) found := by
    refine List.mem_filter.2 ⟨hf, ?_⟩
    by_contra hold
    exact hstays.1 (List.mem_filter.2 ⟨hf, by simpa using hold⟩)
  rw [← upTo_append_beyond c.maxFiles (younger _ _), List.mem_append] at hyoung
  exact hyoung.resolve_right hstays.2

/-- No more artifacts stay than are to be kept. -/
theorem Config.length_stay_le (hmax : 0 ≤ c.maxFiles) (hpaths : (found.map (·.path)).Nodup) :
    ((found.filter fun f => f.path ∉ (c.evicted now found).map (·.path)).length : Int) ≤
      c.maxFiles := by
  rcases lt_or_ge c.maxFiles (found.length : Int) with hlt | hle
  · have hsubset : (found.filter fun f => f.path ∉ (c.evicted now found).map (·.path)) ⊆
        upTo c.maxFiles (younger (c.expiry now) found) := fun f hf => by
      obtain ⟨hmem, hstays⟩ := List.mem_filter.1 hf
      exact c.mem_upTo_of_stays hlt hmem fun hgone =>
        of_decide_eq_true hstays (List.mem_map_of_mem hgone)
    exact Int.le_trans (Int.ofNat_le.2
      (List.subperm_of_subset (hpaths.of_map.filter _) hsubset).length_le) (length_upTo_le hmax)
  · exact Int.le_trans (Int.ofNat_le.2 List.filter_sublist.length_le) hle

/-- What stays is newer than what does not. -/
theorem Config.time_lt_of_evicted (h : found.Pairwise fun f g => g.time < f.time) {f g : File}
    (hf : f ∈ found) (hstays : f ∉ c.evicted now found) (hg : g ∈ c.evicted now found) :
    g.time < f.time := by
  rcases lt_or_ge c.maxFiles (found.length : Int) with hlt | hle
  · have hfirst := c.mem_upTo_of_stays hlt hf hstays
    rw [c.evicted_of_lt hlt, List.mem_append] at hg
    rcases hg with hold | hbeyond
    · have hyoung := (List.mem_filter.1 (List.mem_of_mem_take hfirst)).2
      have hbefore := (List.mem_filter.1 hold).2
      simp only [decide_eq_true_eq] at hyoung hbefore
      omega
    · exact time_lt_of_mem_beyond (h.filter _) hfirst hbeyond
  · rw [c.evicted_of_le hle] at hg
    cases hg

/-- The newest artifact stays, if it is young enough and any are kept. -/
theorem Config.newest_not_mem_evicted (hmax : 1 ≤ c.maxFiles)
    (h : found.Pairwise fun f g => g.time < f.time) {f : File}
    (hnewest : ∀ g ∈ found, g.time ≤ f.time) (hyoung : c.expiry now ≤ f.time) :
    f ∉ c.evicted now found := by
  intro hf
  rcases lt_or_ge c.maxFiles (found.length : Int) with hlt | hle
  · rw [c.evicted_of_lt hlt, List.mem_append] at hf
    rcases hf with hold | hbeyond
    · have hbefore := (List.mem_filter.1 hold).2
      simp only [decide_eq_true_eq] at hbefore
      omega
    · -- the first of the young artifacts would be newer
      obtain ⟨g, hg⟩ := exists_mem_upTo hmax hbeyond
      have hlater := time_lt_of_mem_beyond (h.filter _) hg hbeyond
      have hearlier := hnewest g (List.mem_filter.1 (List.mem_of_mem_take hg)).1
      omega
  · rw [c.evicted_of_le hle] at hf
    cases hf

end Policy

section Removal

open Disk

theorem removeFile_eq (path : Path) (d : Disk) :
    removeFile path d = if d.fails then (false, d.next) else (true, d.next.remove path) := by
  rw [removeFile, bind_apply, succeeds_eq]
  cases d.fails <;> rfl

theorem clears_removeFile (path : Path) (d : Disk) : Clears [path] d (removeFile path d).2 := by
  rw [removeFile_eq]
  cases hfails : d.fails with
  | true => exact (clears_next d).widen (List.nil_subset _) (failures_ne_nil_of_fails hfails)
  | false => exact (clears_next d).trans (clears_remove _ path)

theorem clears_removeEach (files : List File) (d : Disk) :
    Clears (files.map (·.path)) d (removeEach files d).2 := by
  induction files generalizing d with
  | nil => exact clears_refl d
  | cons f rest ih =>
      have hstep : (removeEach (f :: rest) d).2 =
          (removeEach rest (removeFile f.path d).2).2 := rfl
      rw [hstep]
      exact (clears_removeFile f.path d).trans (ih _)

theorem removeOlder_cons (time : Int) (f : File) (rest : List File) (d : Disk) :
    removeOlder time (f :: rest) d =
      if d.fails then ((0, false), d.next)
      else if f.time < time then
        if d.next.fails then ((0, false), d.next.next)
        else
          let r := removeOlder time rest (d.next.next.remove f.path)
          ((r.1.1 + 1, r.1.2), r.2)
      else removeOlder time rest d.next := by
  rw [removeOlder, bind_apply, succeeds_eq]
  cases d.fails with
  | true => rfl
  | false =>
      by_cases hold : f.time < time
      · simp only [Bool.not_false, Bool.not_true, Bool.false_eq_true, if_false, hold, if_true,
          bind_apply, removeFile_eq]
        cases d.next.fails <;> rfl
      · simp only [hold, if_false]
        rfl

/-- Whether the removal of older files is complete is told by its answer. -/
theorem removeOlder_spec (time : Int) (files : List File) (d : Disk) :
    Clears ((older time files).map (·.path)) d (removeOlder time files d).2 ∧
    ((removeOlder time files d).1.2 = true →
      d.Loses ((older time files).map (·.path)) (removeOlder time files d).2) ∧
    (d.failures = [] → (removeOlder time files d).1.2 = true) := by
  induction files generalizing d with
  | nil => exact ⟨clears_refl d, fun _ => loses_nil_iff.2 rfl, fun _ => rfl⟩
  | cons f rest ih =>
      rw [removeOlder_cons]
      cases hfails : d.fails with
      | true =>
          have hfailures := failures_ne_nil_of_fails hfails
          exact ⟨(clears_next d).widen (List.nil_subset _) hfailures, nofun,
            fun hnil => absurd hnil hfailures⟩
      | false =>
          by_cases hold : f.time < time
          · rw [older, List.filter_cons_of_pos (by simpa using hold), ← older, List.map_cons]
            cases hstuck : d.next.fails with
            | true =>
                -- the removal stops at a file that cannot be removed, and is not complete
                have hfailures := failures_ne_nil_of_next_fails hstuck
                simp only [hold, if_true]
                exact ⟨((clears_next d).trans (clears_next _)).widen (List.nil_subset _) hfailures,
                  nofun, fun hnil => absurd hnil hfailures⟩
            | false =>
                simp only [hold, if_true]
                obtain ⟨hclears, hcomplete, hfaultless⟩ := ih (d.next.next.remove f.path)
                have hfirst : Clears [f.path] d (d.next.next.remove f.path) :=
                  ((clears_next d).trans (clears_next _)).trans (clears_remove _ _)
                refine ⟨hfirst.trans hclears, fun h => ?_, fun hnil => ?_⟩
                · exact (loses_remove d f.path).trans (hcomplete h)
                · exact hfaultless (hfirst.all hnil).2
          · rw [older, List.filter_cons_of_neg (by simpa using hold), ← older]
            simp only [hold, if_false]
            obtain ⟨hclears, hcomplete, hfaultless⟩ := ih d.next
            exact ⟨(clears_next d).trans hclears, hcomplete,
              fun hnil => hfaultless (failures_next_of_nil hnil)⟩

theorem files_eq (d : Disk) :
    files c d = if d.fails then (none, d.next)
      else (some (if d.next.fails then [] else c.artifacts d), d.next.next) := by
  rw [files, bind_apply, succeeds_eq]
  cases d.fails with
  | true => rfl
  | false =>
      simp only [Bool.not_false, Bool.not_true, Bool.false_eq_true, if_false, bind_apply,
        succeeds_eq]
      cases d.next.fails <;> rfl

/-- A listing changes no file, and shows all artifacts unless it fails. -/
theorem files_cases (d : Disk) :
    ∃ d', Clears [] d d' ∧ (files c d = (none, d') ∧ d.failures ≠ [] ∨
      files c d = (some [], d') ∧ d.failures ≠ [] ∨ files c d = (some (c.artifacts d), d')) := by
  rw [files_eq]
  have hnext := (clears_next d).trans (clears_next d.next)
  cases hfails : d.fails with
  | true =>
      exact ⟨d.next, clears_next d, .inl ⟨rfl, failures_ne_nil_of_fails hfails⟩⟩
  | false =>
      cases hstuck : d.next.fails with
      | true =>
          exact ⟨d.next.next, hnext, .inr (.inl ⟨rfl, failures_ne_nil_of_next_fails hstuck⟩)⟩
      | false => exact ⟨d.next.next, hnext, .inr (.inr rfl)⟩

theorem enforceLimit_of_files {d' : Disk} {found : List File} (h : files c d = (some found, d')) :
    (enforceLimit c d).2 = (removeEach (beyond c.maxFiles found) d').2 := by
  rw [enforceLimit, bind_apply, h]
  by_cases hle : (found.length : Int) ≤ c.maxFiles
  · simp only [hle, if_true]
    rw [beyond_eq_nil hle]
    rfl
  · simp only [hle, if_false]

theorem clears_enforceLimit (d : Disk) :
    Clears ((beyond c.maxFiles (c.artifacts d)).map (·.path)) d (enforceLimit c d).2 := by
  obtain ⟨d', hd', ⟨h, hfail⟩ | ⟨h, hfail⟩ | h⟩ := files_cases c d
  · rw [enforceLimit, bind_apply, h]
    exact hd'.widen (List.nil_subset _) hfail
  · rw [enforceLimit_of_files c h, show beyond c.maxFiles ([] : List File) = [] from List.drop_nil]
    exact hd'.widen (List.nil_subset _) hfail
  · rw [enforceLimit_of_files c h]
    exact hd'.trans (clears_removeEach _ d')

/-- Whether the age at which artifacts may be removed can be counted back from a time. -/
def Config.Datable : Prop := (Numeral.int (c.cleanupDays * 86400)).FitsFloat

theorem cutoff_of_datable (h : c.Datable) (now : Int) :
    cutoff now c.cleanupDays = .ok (c.expiry now) := by
  obtain ⟨x, hx⟩ := Numeral.exists_toFloat h
  have hsub : (Numeral.float (.zero false)).sub (.int (c.cleanupDays * 86400)) =
      .ok (.float (Binary64.sub (.zero false) x)) := by
    rw [Numeral.sub, Numeral.lift, hx]
    · rfl
    · exact nofun
  rw [cutoff, hsub, Config.expiry]

theorem cutoff_of_not_datable (h : ¬ c.Datable) (now : Int) :
    ∃ failure, cutoff now c.cleanupDays = .error failure := by
  have hsub : (Numeral.float (.zero false)).sub (.int (c.cleanupDays * 86400)) =
      .error .outOfRange := by
    rw [Numeral.sub, Numeral.lift, Numeral.toFloat_of_not_fitsFloat h]
    · rfl
    · exact nofun
  exact ⟨_, by rw [cutoff, hsub]⟩

theorem cleanup_of_not_datable (h : ¬ c.Datable) (now : Int) (d : Disk) :
    (cleanup c now none d).1.isOk = false ∧ (cleanup c now none d).2 = d := by
  obtain ⟨failure, hcutoff⟩ := cutoff_of_not_datable c h now
  rw [cleanup, Option.getD_none, hcutoff]
  exact ⟨rfl, rfl⟩

theorem clears_cleanup (h : c.Datable) (now : Int) {d : Disk} (hd : d.Distinct) :
    (cleanup c now none d).1.isOk = true ∧
    Clears ((older (c.expiry now) (c.artifacts d) ++
      beyond c.maxFiles (younger (c.expiry now) (c.artifacts d))).map (·.path))
      d (cleanup c now none d).2 := by
  rw [cleanup, Option.getD_none, cutoff_of_datable c h]
  simp only [bind_apply]
  obtain ⟨d', hd', ⟨h, hfail⟩ | ⟨h, hfail⟩ | h⟩ := files_cases c d
  · rw [h]
    exact ⟨rfl, hd'.widen (List.nil_subset _) hfail⟩
  · -- nothing was seen to be old, and the number of artifacts is enforced on all of them
    rw [h]
    have hlimit := clears_enforceLimit c d'
    rw [c.artifacts_congr hd'.files_eq] at hlimit
    refine ⟨rfl, (hd'.trans hlimit).widen (List.map_subset _ fun f hf => ?_) hfail⟩
    rw [← younger_append_older (c.expiry now) (c.pairwise_artifacts d)] at hf
    exact List.mem_append.2 (mem_beyond_append hf).symm
  · -- the number is enforced on what the age left, and only if all that is too old was removed
    rw [h]
    obtain ⟨hclears, hcomplete, hfaultless⟩ := removeOlder_spec (c.expiry now) (c.artifacts d) d'
    simp only [bind_apply]
    cases hdone : (removeOlder (c.expiry now) (c.artifacts d) d').1.2 with
    | true =>
        have hlimit := clears_enforceLimit c (removeOlder (c.expiry now) (c.artifacts d) d').2
        rw [c.artifacts_of_loses (hcomplete hdone), c.artifacts_congr hd'.files_eq,
          filter_not_mem_older _ (c.nodup_artifacts hd)] at hlimit
        rw [List.map_append]
        exact ⟨rfl, (hd'.trans hclears).trans hlimit⟩
    | false =>
        refine ⟨rfl, (hd'.trans hclears).widen
          (List.map_subset _ (List.subset_append_left _ _)) fun hnil => ?_⟩
        rw [hfaultless (hd'.all hnil).2] at hdone
        cases hdone

theorem retain_of_files {d' : Disk} {found : List File} (h : files c d = (some found, d'))
    (now : Int) :
    retain c now d = if c.maxFiles < (found.length : Int)
      then ((cleanup c now none d').1.isOk, (cleanup c now none d').2) else (true, d') := by
  rw [retain, bind_apply, h]
  by_cases hlt : c.maxFiles < (found.length : Int)
  · simp only [hlt, if_true]
    rfl
  · simp only [hlt, if_false]
    rfl

theorem retain_of_files_none {d' : Disk} (h : files c d = (none, d')) (now : Int) :
    retain c now d = (false, d') := by
  rw [retain, bind_apply, h]
  rfl

/-- Retention loses no artifact but those that it evicts, and where no operation fails it loses all
of these. -/
theorem clears_retain (h : c.Datable) (now : Int) {d : Disk} (hd : d.Distinct) :
    Clears ((c.evicted now (c.artifacts d)).map (·.path)) d (retain c now d).2 := by
  -- the files are listed anew, but none has changed since the first listing
  have hcleanup {d' : Disk} (hd' : Clears [] d d')
      (hlt : c.maxFiles < ((c.artifacts d).length : Int)) :
      Clears ((c.evicted now (c.artifacts d)).map (·.path)) d' (cleanup c now none d').2 := by
    have hclears := (clears_cleanup c h now (hd'.distinct hd)).2
    rwa [c.artifacts_congr hd'.files_eq, ← c.evicted_of_lt hlt] at hclears
  obtain ⟨d', hd', ⟨h, hfail⟩ | ⟨h, hfail⟩ | h⟩ := files_cases c d
  · rw [retain_of_files_none c h]
    exact hd'.widen (List.nil_subset _) hfail
  · rw [retain_of_files c h]
    split_ifs with hlt
    · exact hd'.trans (hcleanup hd' (by rw [List.length_nil] at hlt; omega))
    · exact hd'.widen (List.nil_subset _) hfail
  · rw [retain_of_files c h]
    split_ifs with hlt
    · exact hd'.trans (hcleanup hd' hlt)
    · rw [c.evicted_of_le (Int.not_lt.1 hlt)]
      exact hd'

/-- Where the age cannot be counted back nothing is evicted. -/
theorem clears_retain_of_not_datable (h : ¬ c.Datable) (now : Int) (d : Disk) :
    Clears [] d (retain c now d).2 := by
  obtain ⟨d', hd', ⟨hfiles, -⟩ | ⟨hfiles, -⟩ | hfiles⟩ := files_cases c d
  · rw [retain_of_files_none c hfiles]
    exact hd'
  all_goals
    rw [retain_of_files c hfiles]
    split_ifs
    · rw [(cleanup_of_not_datable c h now d').2]
      exact hd'
    · exact hd'

/-- Whatever fails, retention loses no artifact but those that it evicts. -/
theorem retain_clears (now : Int) {d : Disk} (hd : d.Distinct) :
    ∃ paths, paths ⊆ (c.evicted now (c.artifacts d)).map (·.path) ∧
      Clears paths d (retain c now d).2 := by
  by_cases h : c.Datable
  · exact ⟨_, List.Subset.refl _, clears_retain c h now hd⟩
  · exact ⟨[], List.nil_subset _, clears_retain_of_not_datable c h now d⟩

theorem retain_loses (now : Int) {d : Disk} (hd : d.Distinct) :
    ∃ gone, gone ⊆ (c.evicted now (c.artifacts d)).map (·.path) ∧
      d.Loses gone (retain c now d).2 := by
  obtain ⟨paths, hpaths, hclears⟩ := retain_clears c now hd
  obtain ⟨gone, hgone, hloses⟩ := hclears.within
  exact ⟨gone, List.Subset.trans hgone hpaths, hloses⟩

theorem retain_isOk (h : c.Datable) (now : Int) {d : Disk} (hd : d.Distinct)
    (hfails : d.fails = false) : (retain c now d).1 = true := by
  have hfiles := files_eq c d
  rw [hfails, if_neg Bool.false_ne_true] at hfiles
  have hcleanup := (clears_cleanup c h now (((clears_next d).trans (clears_next _)).distinct hd)).1
  rw [retain_of_files c hfiles, apply_ite Prod.fst]
  exact (ite_eq_right_iff.2 fun _ => hcleanup)

/-- Where retention does not come to its end, it has not begun. -/
theorem files_retain_of_not_isOk (now : Int) {d : Disk} (hd : d.Distinct)
    (hanswer : (retain c now d).1 = false) : (retain c now d).2.files = d.files := by
  by_cases h : c.Datable
  · cases hfails : d.fails with
    | true =>
        have hfiles := files_eq c d
        rw [hfails, if_pos rfl] at hfiles
        rw [retain_of_files_none c hfiles]
        rfl
    | false =>
        rw [retain_isOk c h now hd hfails] at hanswer
        cases hanswer
  · exact (clears_retain_of_not_datable c h now d).files_eq

/-- Where no operation fails and retention comes to its end, it loses what it evicts. -/
theorem loses_evicted_of_retain (now : Int) {d : Disk} (hd : d.Distinct) (hnil : d.failures = [])
    (hanswer : (retain c now d).1 = true) :
    d.Loses ((c.evicted now (c.artifacts d)).map (·.path)) (retain c now d).2 := by
  by_cases h : c.Datable
  · exact ((clears_retain c h now hd).all hnil).1
  · have hfiles := files_eq c d
    rw [fails_of_nil hnil, fails_of_nil (failures_next_of_nil hnil), if_neg Bool.false_ne_true,
      if_neg Bool.false_ne_true] at hfiles
    rw [retain_of_files c hfiles] at hanswer ⊢
    split_ifs at hanswer ⊢ with hlt
    · exact absurd hanswer (by rw [(cleanup_of_not_datable c h now _).1]; exact Bool.false_ne_true)
    · rw [c.evicted_of_le (Int.not_lt.1 hlt)]
      exact loses_nil_iff.2 rfl

end Removal

end AdminGrid.Inspector
