import AdminGrid.Disk
import Mathlib.Data.List.Nodup

/-!
# Files that are lost

An operation on files is the next one to come, and fails or succeeds as its outcome says.  What a
computation does to a disk is told by the files that the disk loses; the others stay as they are,
where they are.
-/

namespace AdminGrid.Disk

/-- Whether the next operation fails. -/
def fails (d : Disk) : Bool := d.failures.headD false

/-- A disk after an operation that changed no file. -/
def next (d : Disk) : Disk := { d with failures := d.failures.tail }

/-- A disk after a number of operations that changed no file. -/
def passed : Nat → Disk → Disk
  | 0, d => d
  | n + 1, d => (passed n d).next

/-- A disk with a folder that was made. -/
def withFolder (folder : Path) (d : Disk) : Disk := { d with folders := d.folders ++ [folder] }

/-- Whether a number of operations to come succeed. -/
def Serves : Nat → Disk → Prop
  | 0, _ => True
  | n + 1, d => d.Serves n ∧ (d.passed n).fails = false

/-- Whether no two files are at one path. -/
def Distinct (d : Disk) : Prop := (d.files.map (·.path)).Nodup

/-- Whether the second disk has all files of the first one but those at some paths. -/
def Loses (gone : List Path) (d d' : Disk) : Prop :=
  d'.files = d.files.filter fun f => f.path ∉ gone

variable {d d' d'' : Disk} {gone gone' : List Path} {path : Path} {f : File}

theorem bind_apply {α β : Type} (x : OnDisk α) (f : α → OnDisk β) (d : Disk) :
    (x >>= f) d = f (x d).1 (x d).2 := rfl

theorem succeeds_eq (d : Disk) : succeeds d = (!d.fails, d.next) := by
  rcases d with ⟨folders, files, _ | ⟨fails, rest⟩⟩ <;> rfl

theorem fails_of_nil (h : d.failures = []) : d.fails = false := by
  rw [fails, h, List.headD_nil]

theorem failures_ne_nil_of_fails (h : d.fails = true) : d.failures ≠ [] := fun hnil => by
  rw [fails_of_nil hnil] at h
  cases h

theorem failures_next_of_nil (h : d.failures = []) : d.next.failures = [] := by
  rw [next, h, List.tail_nil]

theorem failures_ne_nil_of_next_fails (h : d.next.fails = true) : d.failures ≠ [] :=
  fun hnil => failures_ne_nil_of_fails h (failures_next_of_nil hnil)

@[simp]
theorem passed_files (n : Nat) (d : Disk) : (d.passed n).files = d.files := by
  induction n with
  | zero => rfl
  | succ n ih => exact ih

theorem failures_passed_of_nil (h : d.failures = []) (n : Nat) : (d.passed n).failures = [] := by
  induction n with
  | zero => exact h
  | succ n ih => exact failures_next_of_nil ih

/-- Where no operation fails, any number of them succeed. -/
theorem serves_of_nil (h : d.failures = []) (n : Nat) : d.Serves n := by
  induction n with
  | zero => trivial
  | succ n ih => exact ⟨ih, fails_of_nil (failures_passed_of_nil h n)⟩

theorem loses_nil_iff : d.Loses [] d' ↔ d'.files = d.files := by
  simp [Loses]

theorem loses_remove (d : Disk) (path : Path) : d.Loses [path] (d.remove path) :=
  List.filter_congr fun f _ => Bool.eq_iff_iff.2 (by simp)

theorem Loses.mem_iff (h : d.Loses gone d') : f ∈ d'.files ↔ f ∈ d.files ∧ f.path ∉ gone := by
  rw [h, List.mem_filter, decide_eq_true_eq]

theorem Loses.trans (h : d.Loses gone d') (h' : d'.Loses gone' d'') :
    d.Loses (gone ++ gone') d'' := by
  unfold Loses at *
  rw [h', h, List.filter_filter]
  exact List.filter_congr fun f _ => Bool.eq_iff_iff.2 (by simp [and_comm])

theorem Loses.distinct (h : d.Loses gone d') (hd : d.Distinct) : d'.Distinct := by
  unfold Distinct at *
  rw [h]
  exact hd.sublist (List.filter_sublist.map _)

theorem put_put {g : File} (d : Disk) (h : f.path = g.path) : (d.put f).put g = d.put g := by
  simp [put, List.filter_append, List.filter_filter, h]

theorem remove_put (d : Disk) (f : File) : (d.put f).remove f.path = d.remove f.path := by
  simp [put, remove, List.filter_append, List.filter_filter]

theorem remove_of_forall_ne (h : ∀ f ∈ d.files, f.path ≠ path) : d.remove path = d := by
  rw [remove, List.filter_eq_self.2 fun f hf => bne_iff_ne.2 (h f hf)]

theorem distinct_put (hd : d.Distinct) (f : File) : (d.put f).Distinct := by
  have hrest : ((d.files.filter fun g => g.path != f.path).map (·.path)).Nodup :=
    hd.sublist (List.filter_sublist.map _)
  unfold Distinct put
  rw [List.map_append, List.nodup_append]
  refine ⟨hrest, List.nodup_singleton _, fun path hpath other hother heq => ?_⟩
  obtain ⟨g, hg, rfl⟩ := List.mem_map.1 hpath
  have hne : g.path ≠ f.path := by simpa [bne_iff_ne] using (List.mem_filter.1 hg).2
  exact hne (heq.trans (List.mem_singleton.1 hother))

theorem mem_put (d : Disk) (f : File) : f ∈ (d.put f).files :=
  List.mem_append_right _ (List.mem_singleton_self f)

/-- What a computation did that removes the files at some paths, as far as that succeeds: no other
file is lost, and where no operation fails all of these are. -/
structure Clears (paths : List Path) (d d' : Disk) : Prop where
  within : ∃ gone, gone ⊆ paths ∧ d.Loses gone d'
  all : d.failures = [] → d.Loses paths d' ∧ d'.failures = []

theorem clears_nil (hfiles : d'.files = d.files) (h : d.failures = [] → d'.failures = []) :
    Clears [] d d' :=
  ⟨⟨[], List.nil_subset _, loses_nil_iff.2 hfiles⟩, fun hnil => ⟨loses_nil_iff.2 hfiles, h hnil⟩⟩

theorem clears_refl (d : Disk) : Clears [] d d := clears_nil rfl id

theorem clears_next (d : Disk) : Clears [] d d.next := clears_nil rfl failures_next_of_nil

theorem clears_withFolder (folder : Path) (d : Disk) : Clears [] d (d.withFolder folder) :=
  clears_nil rfl id

theorem clears_passed (n : Nat) (d : Disk) : Clears [] d (d.passed n) :=
  clears_nil (passed_files n d) fun h => failures_passed_of_nil h n

theorem clears_remove (d : Disk) (path : Path) : Clears [path] d (d.remove path) :=
  ⟨⟨[path], List.Subset.refl _, loses_remove d path⟩, fun h => ⟨loses_remove d path, h⟩⟩

theorem Clears.trans {paths paths' : List Path} (h : Clears paths d d')
    (h' : Clears paths' d' d'') : Clears (paths ++ paths') d d'' := by
  obtain ⟨gone, hgone, hloses⟩ := h.within
  obtain ⟨gone', hgone', hloses'⟩ := h'.within
  refine ⟨⟨gone ++ gone', ?_, hloses.trans hloses'⟩, fun hnil => ?_⟩
  · exact List.append_subset.2 ⟨List.subset_append_of_subset_left _ hgone,
      List.subset_append_of_subset_right _ hgone'⟩
  · obtain ⟨hfirst, hnil'⟩ := h.all hnil
    obtain ⟨hsecond, hnil''⟩ := h'.all hnil'
    exact ⟨hfirst.trans hsecond, hnil''⟩

/-- A computation may give up after an operation that fails. -/
theorem Clears.widen {paths paths' : List Path} (h : Clears paths d d') (hpaths : paths ⊆ paths')
    (hfailures : d.failures ≠ []) : Clears paths' d d' := by
  obtain ⟨gone, hgone, hloses⟩ := h.within
  exact ⟨⟨gone, List.Subset.trans hgone hpaths, hloses⟩, fun hnil => absurd hnil hfailures⟩

theorem Clears.files_eq (h : Clears [] d d') : d'.files = d.files := by
  obtain ⟨gone, hgone, hloses⟩ := h.within
  rw [List.subset_nil.1 hgone] at hloses
  exact loses_nil_iff.1 hloses

theorem Clears.distinct {paths : List Path} (h : Clears paths d d') (hd : d.Distinct) :
    d'.Distinct := by
  obtain ⟨gone, -, hloses⟩ := h.within
  exact hloses.distinct hd

/-- Files at one path are one file. -/
theorem Distinct.eq_of_path_eq (hd : d.Distinct) {f g : File} (hf : f ∈ d.files)
    (hg : g ∈ d.files) (h : f.path = g.path) : f = g :=
  List.inj_on_of_nodup_map hd hf hg h

end AdminGrid.Disk
