import AdminGrid.Command.Gate
import AdminGrid.Proofs.Outcome

/-!
# What the gate looks at

The summary shows the most recent artifacts, as many as are asked for, and passes over files that
hold none.  The gate looks at the most recent files, as many as are asked for, and passes over those
among them that hold none.  So for every such file it looks at one artifact less: it looks at the
first of the artifacts that the summary shows and overlooks the rest, and an overlooked artifact can
be the only one that differs more than is tolerated.
-/

namespace AdminGrid.Command

open Inspector

/-- A file with the artifact that it holds, if it holds one. -/
def artifactIn (f : File) : Option (File × Entries Value) :=
  (readDocument f.content).map fun artifact => (f, artifact)

section Artifacts

variable (c : Config) (d : Disk) (limit : Nat)

/-- The artifacts behind the rows of a summary. -/
def shown : List (File × Entries Value) := ((c.artifacts d).filterMap artifactIn).take limit

/-- The artifacts that the gate looks at. -/
def checked : List (File × Entries Value) := ((c.artifacts d).take limit).filterMap artifactIn

/-- The artifacts that the summary shows and the gate does not look at. -/
def overlooked : List (File × Entries Value) :=
  (((c.artifacts d).drop limit).filterMap artifactIn).take (limit - (checked c d limit).length)

theorem shown_eq_append : shown c d limit = checked c d limit ++ overlooked c d limit := by
  have hlength : (checked c d limit).length ≤ limit :=
    Nat.le_trans (List.length_filterMap_le ..) (List.length_take_le ..)
  have hsplit : (c.artifacts d).filterMap artifactIn =
      checked c d limit ++ ((c.artifacts d).drop limit).filterMap artifactIn := by
    rw [checked, ← List.filterMap_append, List.take_append_drop]
  rw [shown, hsplit, List.take_append, List.take_of_length_le hlength, overlooked]

/-- Where each of the most recent files holds an artifact, none is overlooked. -/
theorem overlooked_eq_nil
    (h : ∀ f ∈ (c.artifacts d).take limit, (readDocument f.content).isSome = true) :
    overlooked c d limit = [] := by
  have hlength : (checked c d limit).length = ((c.artifacts d).take limit).length :=
    List.filterMap_length_eq_length.2 fun f hf => by simpa [artifactIn] using h f hf
  rw [List.length_take] at hlength
  rcases Nat.le_total limit (c.artifacts d).length with hle | hle
  · rw [overlooked, hlength, Nat.min_eq_left hle, Nat.sub_self, List.take_zero]
  · rw [overlooked, List.drop_eq_nil_of_le hle, List.filterMap_nil, List.take_nil]

/-- The summary has a row for each artifact that it shows. -/
theorem summaryRows_eq (files : List File) :
    summaryRows limit none files =
      ((files.filterMap artifactIn).take limit).mapM fun e => summaryRow e.1.path.name e.2 := by
  induction files generalizing limit with
  | nil => rw [List.filterMap_nil, List.take_nil]; rfl
  | cons f rest ih =>
      cases limit with
      | zero => rfl
      | succ limit =>
          rw [summaryRows, if_neg (by omega)]
          cases hread : readDocument f.content with
          | none =>
              rw [List.filterMap_cons_none (by simp [artifactIn, hread])]
              exact ih (limit + 1)
          | some artifact =>
              rw [List.filterMap_cons_some (b := (f, artifact)) (by simp [artifactIn, hread])]
              have hlimit : ((limit + 1 : Nat) : Int) - 1 = limit := by omega
              simp only [isOfRoute, if_true]
              rw [hlimit, ih, List.take_succ_cons, List.mapM_cons]

end Artifacts

/-- The severity of the report in an artifact. -/
def severityIn (artifact : Entries Value) : Attempt Numeral := do
  Parity.severity (← partEntries (cellAt artifact "diff"))

/-- Whether the report in an artifact can be read for its severity. -/
def HasSeverity (artifact : Entries Value) : Prop := ∃ n, severityIn artifact = .ok n

/-- Whether the report in an artifact has a severity that is more than is tolerated. -/
def Exceeds (allowed : Int) (artifact : Entries Value) : Prop :=
  ∃ n, severityIn artifact = .ok n ∧ exceeds n allowed = true

section Gate

variable {c : Config} {d : Disk} {limit : Nat} {allowed : Int}

theorem artifactExceeds_of_none {f : File} (h : artifactIn f = none) :
    artifactExceeds allowed f = .ok false := by
  rw [artifactExceeds, Option.map_eq_none_iff.1 h]

theorem artifactExceeds_of_some {f : File} {e : File × Entries Value} (h : artifactIn f = some e) :
    artifactExceeds allowed f = (severityIn e.2).map fun n => exceeds n allowed := by
  obtain ⟨artifact, hread, rfl⟩ := Option.map_eq_some_iff.1 h
  rw [artifactExceeds, hread]
  dsimp only [severityIn]
  cases partEntries (cellAt artifact "diff") with
  | error failure => rfl
  | ok report =>
      change (Parity.severity report >>= fun n => pure (exceeds n allowed)) =
        (Parity.severity report).map fun n => exceeds n allowed
      cases Parity.severity report <;> rfl

/-- The files can be judged exactly if the report in each artifact among them can. -/
theorem exists_mapM_artifactExceeds_iff (files : List File) :
    (∃ found, files.mapM (artifactExceeds allowed) = .ok found) ↔
      ∀ e ∈ files.filterMap artifactIn, HasSeverity e.2 := by
  induction files with
  | nil => simp [pure, Except.pure]
  | cons f rest ih =>
      have hcons : (∃ found, (f :: rest).mapM (artifactExceeds allowed) = .ok found) ↔
          (∃ b, artifactExceeds allowed f = .ok b) ∧
            ∃ found, rest.mapM (artifactExceeds allowed) = .ok found := by
        simp only [mapM_cons_eq_ok]
        constructor
        · rintro ⟨_, b, found, hb, hfound, -⟩
          exact ⟨⟨b, hb⟩, found, hfound⟩
        · rintro ⟨⟨b, hb⟩, found, hfound⟩
          exact ⟨_, b, found, hb, hfound, rfl⟩
      rw [hcons, ih]
      cases hartifact : artifactIn f with
      | none =>
          rw [List.filterMap_cons_none hartifact, artifactExceeds_of_none hartifact]
          simp
      | some e =>
          rw [List.filterMap_cons_some hartifact, artifactExceeds_of_some hartifact,
            List.forall_mem_cons, HasSeverity]
          simp only [map_eq_ok]
          refine and_congr_left' ⟨?_, ?_⟩
          · rintro ⟨b, n, hn, -⟩
            exact ⟨n, hn⟩
          · rintro ⟨n, hn⟩
            exact ⟨_, n, hn, rfl⟩

/-- The files are more than tolerated exactly if an artifact among them is. -/
theorem any_of_mapM_artifactExceeds {files : List File} {found : List Bool}
    (h : files.mapM (artifactExceeds allowed) = .ok found) :
    found.any id = true ↔ ∃ e ∈ files.filterMap artifactIn, Exceeds allowed e.2 := by
  have hall := mapM_eq_ok.1 h
  clear h
  induction hall with
  | nil => simp
  | @cons f b rest found hb _ ih =>
      have hrest : found.any id = true ↔ _ := ih
      rw [List.any_cons, Bool.or_eq_true, hrest]
      cases hartifact : artifactIn f with
      | none =>
          rw [artifactExceeds_of_none hartifact] at hb
          rw [List.filterMap_cons_none hartifact, ← Except.ok.inj hb]
          simp
      | some e =>
          rw [artifactExceeds_of_some hartifact] at hb
          obtain ⟨n, hn, rfl⟩ := map_eq_ok.1 hb
          have hexceeds : Exceeds allowed e.2 ↔ exceeds n allowed = true := by
            refine ⟨fun ⟨m, hm, hlimit⟩ => ?_, fun hlimit => ⟨n, hn, hlimit⟩⟩
            rwa [Except.ok.inj (hn.symm.trans hm)]
          rw [List.filterMap_cons_some hartifact]
          simp [hexceeds]

/-- The gate answers exactly if the report in each artifact that it looks at can be read, and then
by these artifacts. -/
theorem gateArtifacts_eq_ok_iff {code : Nat} :
    gateArtifacts c d limit allowed = .ok code ↔
      (∀ e ∈ checked c d limit, HasSeverity e.2) ∧
        ((∃ e ∈ checked c d limit, Exceeds allowed e.2) ∧ code = 1 ∨
          (¬ ∃ e ∈ checked c d limit, Exceeds allowed e.2) ∧ code = 0) := by
  have hfiles : upTo limit (c.artifacts d) = (c.artifacts d).take limit := by
    rw [upTo, if_neg (by omega), Int.toNat_natCast]
  rw [gateArtifacts, hfiles, bind_eq_ok, checked, ← exists_mapM_artifactExceeds_iff]
  constructor
  · rintro ⟨found, hfound, hcode⟩
    refine ⟨⟨found, hfound⟩, ?_⟩
    rw [← any_of_mapM_artifactExceeds hfound, ← pure_eq_ok.1 hcode]
    cases found.any id <;> simp
  · rintro ⟨⟨found, hfound⟩, hcode⟩
    refine ⟨found, hfound, ?_⟩
    rw [← any_of_mapM_artifactExceeds hfound] at hcode
    rw [pure_eq_ok]
    revert hcode
    cases found.any id <;> simp +contextual

end Gate

/-- Whether the gate answers by the artifacts that the summary shows: `1` where one of them differs
more than is tolerated, and `0` otherwise. -/
def SeesShown (c : Config) (d : Disk) (limit : Nat) (allowed : Int) : Prop :=
  ((∃ e ∈ shown c d limit, Exceeds allowed e.2) → gateArtifacts c d limit allowed = .ok 1) ∧
    ((¬ ∃ e ∈ shown c d limit, Exceeds allowed e.2) → gateArtifacts c d limit allowed = .ok 0)

/-- The gate answers by the artifacts that the summary shows exactly if the reports in those that it
looks at can be read, and an overlooked artifact is more than tolerated only where one that is
looked at is as well.  None is overlooked where each of the most recent files holds an artifact. -/
theorem seesShown_iff (c : Config) (d : Disk) (limit : Nat) (allowed : Int) :
    (SeesShown c d limit allowed ↔ (∀ e ∈ checked c d limit, HasSeverity e.2) ∧
      ((∃ e ∈ overlooked c d limit, Exceeds allowed e.2) →
        ∃ e ∈ checked c d limit, Exceeds allowed e.2)) ∧
    Inspector.summary c d limit none =
      (shown c d limit).mapM (fun e => summaryRow e.1.path.name e.2) ∧
    shown c d limit = checked c d limit ++ overlooked c d limit ∧
    ((∀ f ∈ (c.artifacts d).take limit, (readDocument f.content).isSome = true) →
      overlooked c d limit = []) := by
  refine ⟨?_, summaryRows_eq limit _, shown_eq_append c d limit, overlooked_eq_nil c d limit⟩
  have hshown : (∃ e ∈ shown c d limit, Exceeds allowed e.2) ↔
      (∃ e ∈ checked c d limit, Exceeds allowed e.2) ∨
        ∃ e ∈ overlooked c d limit, Exceeds allowed e.2 := by
    rw [shown_eq_append]
    simp only [List.mem_append, or_and_right, exists_or]
  rw [SeesShown, gateArtifacts_eq_ok_iff, gateArtifacts_eq_ok_iff, hshown]
  by_cases hchecked : ∃ e ∈ checked c d limit, Exceeds allowed e.2 <;>
    by_cases hoverlooked : ∃ e ∈ overlooked c d limit, Exceeds allowed e.2 <;>
    simp only [hchecked, hoverlooked] <;> simp

/-- An inspector that keeps its artifacts in a folder. -/
def keeper : Config := ⟨true, .of "artifacts", 100, 7, 10485760, false, true, true, false⟩

/-- The text of an artifact on answers with different numbers of records. -/
def differing : String := "\x7b\"diff\":\x7b\"recordsTotal\":1\x7d\x7d"

/-- An artifact on a difference, and a newer file that holds none. -/
def unreadableLast : Disk where
  folders := []
  files := [⟨.of "artifacts/b.json", "", 2⟩, ⟨.of "artifacts/a.json", differing, 1⟩]
  failures := []

theorem readDocument_differing :
    readDocument differing = some [("diff", .map [("recordsTotal", .int 1)])] := by
  have hchars : differing.toList = ['\x7b', '"', 'd', 'i', 'f', 'f', '"', ':', '\x7b', '"', 'r',
      'e', 'c', 'o', 'r', 'd', 's', 'T', 'o', 't', 'a', 'l', '"', ':', '1', '\x7d', '\x7d'] := by
    decide
  rw [readDocument, Json.read?, hchars]
  rfl

/-- The gate finds nothing in the file without an artifact, where the summary shows the one behind
it, which is not tolerated. -/
theorem not_seesShown_unreadableLast :
    gateArtifacts keeper unreadableLast 1 0 = .ok 0 ∧
      (shown keeper unreadableLast 1).map (·.1.path.name) = ["a.json"] ∧
      (∃ e ∈ shown keeper unreadableLast 1, severityIn e.2 = .ok (.int 1)) ∧
      ¬ SeesShown keeper unreadableLast 1 0 := by
  have hartifacts : keeper.artifacts unreadableLast = unreadableLast.files := by
    rw [Config.artifacts]
    exact List.mergeSort_of_pairwise (by decide)
  have hempty : readDocument "" = none := rfl
  have hchecked : checked keeper unreadableLast 1 = [] := by
    rw [checked, hartifacts]
    simp [unreadableLast, artifactIn, hempty]
  have hgate : gateArtifacts keeper unreadableLast (1 : Nat) 0 = .ok 0 := by
    rw [gateArtifacts_eq_ok_iff, hchecked]
    simp
  have hshown : shown keeper unreadableLast 1 = [(⟨.of "artifacts/a.json", differing, 1⟩,
      [("diff", .map [("recordsTotal", .int 1)])])] := by
    rw [shown, hartifacts]
    simp [unreadableLast, artifactIn, hempty, readDocument_differing]
  have hseverity : severityIn [("diff", .map [("recordsTotal", .int 1)])] = .ok (.int 1) := rfl
  rw [hshown]
  refine ⟨hgate, by decide, ⟨_, List.mem_singleton_self _, hseverity⟩, fun hsees => ?_⟩
  have hone := hsees.1 ⟨_, by rw [hshown]; exact List.mem_singleton_self _, _, hseverity, rfl⟩
  rw [hgate] at hone
  cases hone

end AdminGrid.Command
