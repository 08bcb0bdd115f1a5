import AdminGrid.Parity.Parts
import AdminGrid.Proofs.Secrecy.Answer
import AdminGrid.Proofs.Service.Staged

/-!
# Runs of both compilers

A run of both compilers should look to a client like a run of the direct one, whatever becomes of
the staged compiler, of its reports and of the recorder.  Their failures are indeed kept from the
answer, and so is a text of the environment that is no number where the tolerated severity is looked
for.  The severity that the settings tolerate is a number, if they have one; a value that cannot be
read as a number there would end the run, although the payload is there already.
-/

namespace AdminGrid.Parity

/-- Whether the tolerated severity can be read where it is set. -/
def SettingReadable (setting : Value) : Prop :=
  setting = .null ∨ ∃ n, setting.whole = .ok n

theorem exists_tolerance_iff (setting : Value) (fallback : Option String) :
    (∃ n, tolerance setting fallback = .ok n) ↔ SettingReadable setting := by
  unfold tolerance SettingReadable
  split
  · simp
  · rename_i hset
    rw [or_iff_right hset]
    simp [map_eq_ok]

theorem exists_severity (direct : Entries Value) (staged : Option (Entries Value)) :
    ∃ n, severity (compare direct staged) = .ok n := by
  have hends := ends_severity direct staged
  cases hseverity : severity (compare direct staged) with
  | error e =>
      rw [hseverity] at hends
      exact hends.elim
  | ok n => exact ⟨n, rfl⟩

/-- A run of both compilers whose direct compilation succeeds answers unless the tolerated severity
cannot be read. -/
theorem runBoth_of_severity {direct : Entries Value} {staged : Attempt (Entries Value)}
    {n : Numeral} (h : severity (compare direct staged.toOption) = .ok n)
    (progress : Entries Value) (limit : Attempt Int) :
    runBoth (.ok direct) staged progress limit = limit.map fun _ =>
      ⟨.both, direct, some ⟨compare direct staged.toOption, n, progress⟩⟩ := by
  show (severity (compare direct staged.toOption) >>= fun n => limit >>= fun _ => _) = _
  rw [h]
  cases limit <;> rfl

namespace Parts

variable {σ : Type} (p : Parts σ) (about : Circumstances) (c : Request.Context) (world : σ)

/-- Whatever the recorder does, handing a report to it succeeds. -/
theorem run_persist (timestamp : String) (report : Entries Value) :
    ((p.persist timestamp c report).run.run world).1 = .ok () := by
  unfold persist
  rw [run_tryCatch]
  split <;> rfl

/-- Whatever the staged compiler does, there is an answer or none. -/
theorem run_stagedAnswer :
    (p.stagedAnswer c).run.run world =
      (.ok ((p.staged c).run.run world).1.toOption, ((p.staged c).run.run world).2) := by
  have hmap : (some <$> p.staged c).run.run world =
      (((p.staged c).run.run world).1.map some, ((p.staged c).run.run world).2) := by
    rw [map_eq_pure_bind, run_bind]
    rcases (p.staged c).run.run world with ⟨_ | answer, next⟩ <;> rfl
  rw [stagedAnswer, run_tryCatch, hmap]
  rcases (p.staged c).run.run world with ⟨_ | answer, next⟩ <;> rfl

section Compared

variable {direct : Entries Value} {next last : σ} {staged : Attempt (Entries Value)} {n : Numeral}
  (hdirect : (p.direct c).run.run world = (.ok direct, next))
  (hstaged : (p.staged c).run.run next = (staged, last))
  (hseverity : severity (compare direct staged.toOption) = .ok n)

include hdirect hstaged hseverity

/-- A run of both compilers that cannot read the tolerated severity fails. -/
theorem run_runBoth_of_error {e : Failure}
    (hlimit : tolerance about.setting about.fallback = .error e) :
    (p.runBoth about c).run.run world = (.error e, last) := by
  unfold runBoth
  rw [run_bind, hdirect]
  dsimp only
  rw [run_bind, run_stagedAnswer, hstaged]
  dsimp only
  rw [run_bind, run_ofExcept, hseverity]
  dsimp only
  rw [run_bind, run_ofExcept, hlimit]

/-- Any other run of both compilers answers, and leaves what the recorder does. -/
theorem run_runBoth_of_ok {limit : Int}
    (hlimit : tolerance about.setting about.fallback = .ok limit) :
    (p.runBoth about c).run.run world =
      (.ok ⟨.both, direct, some (compare direct staged.toOption), some n⟩,
        ((p.persist about.timestamp c (compare direct staged.toOption)).run.run last).2) := by
  have hpersist := p.run_persist c last about.timestamp (compare direct staged.toOption)
  unfold runBoth
  rw [run_bind, hdirect]
  dsimp only
  rw [run_bind, run_stagedAnswer, hstaged]
  dsimp only
  rw [run_bind, run_ofExcept, hseverity]
  dsimp only
  rw [run_bind, run_ofExcept, hlimit]
  dsimp only
  rw [run_bind]
  generalize (p.persist about.timestamp c (compare direct staged.toOption)).run.run last = done
    at hpersist ⊢
  obtain ⟨kept, left⟩ := done
  obtain rfl : kept = .ok () := hpersist
  rfl

end Compared

theorem run_of_isNone (mode : Mode) (h : c.descriptor.isNone = true) :
    (p.run mode about c).run.run world =
      (.error (.configuration (.unregistered c.tableName)), world) := by
  unfold run
  rw [if_pos h]
  rfl

/-- The run of one compiler alone answers with its payload. -/
theorem run_alone (mode : Mode) (call : Acting σ (Entries Value)) :
    (call >>= fun wire => (pure ⟨mode, wire, none, none⟩ : Acting σ Result)).run.run world =
      ((call.run.run world).1.map fun wire => ⟨mode, wire, none, none⟩,
        (call.run.run world).2) := by
  rw [run_bind]
  rcases call.run.run world with ⟨_ | wire, next⟩ <;> rfl

section Described

variable (h : ¬ c.descriptor.isNone = true)

include h

theorem run_staged : (p.run .staged about c).run.run world =
    (((p.staged c).run.run world).1.map fun wire => ⟨.staged, wire, none, none⟩,
      ((p.staged c).run.run world).2) := by
  unfold run
  rw [if_neg h]
  exact run_alone world .staged (p.staged c)

theorem run_direct : (p.run .direct about c).run.run world =
    (((p.direct c).run.run world).1.map fun direct => ⟨.direct, direct, none, none⟩,
      ((p.direct c).run.run world).2) := by
  unfold run
  rw [if_neg h]
  exact run_alone world .direct (p.direct c)

theorem run_both : (p.run .both about c).run.run world = (p.runBoth about c).run.run world := by
  unfold run
  rw [if_neg h]

theorem run_both_of_error {e : Failure} {next : σ}
    (hdirect : (p.direct c).run.run world = (.error e, next)) :
    (p.run .both about c).run.run world = (.error e, next) := by
  rw [p.run_both about c world h]
  unfold runBoth
  rw [run_bind, hdirect]

end Described

/-- A run of both compilers answers with the payload of the direct one, or fails as it does, exactly
if the direct compiler fails or the tolerated severity can be read. -/
theorem chosen_both_eq_iff :
    p.chosen .both about c world = p.chosen .direct about c world ↔
      (∃ e, p.chosen .direct about c world = .error e) ∨ SettingReadable about.setting := by
  unfold chosen
  by_cases hnone : c.descriptor.isNone = true
  · rw [run_of_isNone p about c world _ hnone, run_of_isNone p about c world _ hnone]
    exact iff_of_true rfl (.inl ⟨_, rfl⟩)
  rw [run_direct p about c world hnone]
  rcases hdirect : (p.direct c).run.run world with ⟨e | direct, next⟩
  · rw [run_both_of_error p about c world hnone hdirect]
    exact iff_of_true rfl (.inl ⟨e, rfl⟩)
  rw [run_both p about c world hnone]
  -- the payload is there, every report has a severity: the tolerance alone can still fail
  obtain ⟨n, hn⟩ := exists_severity direct ((p.staged c).run.run next).1.toOption
  rw [← exists_tolerance_iff about.setting about.fallback]
  cases hlimit : tolerance about.setting about.fallback with
  | error e =>
      rw [run_runBoth_of_error p about c world hdirect rfl hn hlimit]
      refine iff_of_false (fun h => ?_) ?_
      · cases h
      · rintro (⟨_, h⟩ | ⟨_, h⟩) <;> cases h
  | ok limit =>
      rw [run_runBoth_of_ok p about c world hdirect rfl hn hlimit]
      exact iff_of_true rfl (.inr ⟨limit, rfl⟩)

/-- Where the staged compiler fails, a run of both compilers reports a missing answer. -/
theorem run_both_of_stagedFails (hdescriptor : c.descriptor.isSome = true)
    (hreadable : SettingReadable about.setting) {direct : Entries Value} {next last : σ}
    {e : Failure} (hdirect : (p.direct c).run.run world = (.ok direct, next))
    (hstaged : (p.staged c).run.run next = (.error e, last)) :
    ((p.run .both about c).run.run world).1 =
      .ok ⟨.both, direct, some [("note", .text unavailableNote)], some (.int maxSeverity)⟩ := by
  have hsome : ¬ c.descriptor.isNone = true := by
    simpa using Option.isSome_iff_ne_none.1 hdescriptor
  obtain ⟨limit, hlimit⟩ := (exists_tolerance_iff about.setting about.fallback).2 hreadable
  rw [run_both p about c world hsome, run_runBoth_of_ok p about c world hdirect hstaged rfl hlimit]
  rfl

end Parts

section Service

variable (source : Source) (config : Attempt Inspector.Config) (o : Inspector.Occasion)
  {mode : Mode} {about : Circumstances} {c : Request.Context}

/-- What a run leaves on the disk: nothing new where the inspector cannot be set up. -/
def Run.leaves (r : Run) (config : Attempt Inspector.Config) (o : Inspector.Occasion)
    (c : Request.Context) (d : Disk) : Disk :=
  match config with
  | .ok config => ((r.persist config o c).run d).2
  | .error _ => d

theorem Run.leaves_of_none {r : Run} (h : r.comparison = none) (d : Disk) :
    r.leaves config o c d = d := by
  unfold Run.leaves
  cases config with
  | error e => rfl
  | ok config =>
      dsimp only
      unfold Run.persist
      rw [h]
      rfl

theorem store_of_disabled {config : Inspector.Config} (h : config.enabled = false)
    (d : ParityDiagnostic) (extra : Entries Value) (disk : Disk) :
    (Inspector.store config o d extra).run disk = (none, disk) := by
  unfold Inspector.store
  rw [h]
  rfl

/-- The inspector is handed the report of a run, and leaves the artifact on the disk. -/
theorem run_persist_ofService (report progress : Entries Value) (disk : Disk)
    (direct : Entries Value) (n : Numeral) :
    (((Parts.ofService source config o).persist o.timestamp c report).run.run
      (disk, progress)).2.1 =
      Run.leaves ⟨.both, direct, some ⟨report, n, progress⟩⟩ config o c disk := by
  unfold Parts.persist
  rw [run_tryCatch]
  cases config with
  | error e => rfl
  | ok config =>
      have hrecorder : (Parts.ofService source (.ok config) o).recorder.run.run (disk, progress) =
          (.ok ⟨config.enabled, fun d extra => modify fun world =>
            (((Inspector.store config o d extra).run world.1).2, world.2)⟩, disk, progress) := rfl
      rw [run_bind, hrecorder]
      dsimp only
      cases henabled : config.enabled with
      | true => rfl
      | false =>
          show disk = ((Inspector.store config o (diagnosticOf c o.timestamp report)
            progress).run disk).2
          rw [store_of_disabled o henabled]

theorem run_staged_ofService (disk : Disk) (before : Entries Value) :
    ((Parts.ofService source config o).staged c).run.run (disk, before) =
      ((Staged.compile source c).1.map fun response => response.toWire false, disk,
        (Staged.compile source c).2.report) := by
  have hopen : (Parts.ofService source config o).staged c = (do
      modify fun world => (world.1, (Staged.compile source c).2.report)
      return (← MonadExcept.ofExcept (Staged.compile source c).1).toWire false) := rfl
  rw [hopen]
  rcases Staged.compile source c with ⟨_ | response, progress⟩ <;> rfl

/-- A run of both compilers of a service is that of its parts. -/
theorem run_both_ofService (htime : about.timestamp = o.timestamp) (disk : Disk)
    (before : Entries Value) (hnone : ¬ c.descriptor.isNone = true) :
    (((Parts.ofService source config o).run .both about c).run.run (disk, before)).1 =
      (run source .both (tolerance about.setting about.fallback) c).map Run.result ∧
    ∀ r, run source .both (tolerance about.setting about.fallback) c = .ok r →
      (((Parts.ofService source config o).run .both about c).run.run (disk, before)).2.1 =
        r.leaves config o c disk := by
  have hdirect : ((Parts.ofService source config o).direct c).run.run (disk, before) =
      (Direct.compile source c, disk, before) := run_ofExcept _ _
  have hstaged := run_staged_ofService source config o (c := c) disk before
  unfold run
  rw [if_neg hnone]
  generalize Staged.compile source c = compiled at hstaged ⊢
  obtain ⟨answer, progress⟩ := compiled
  cases hanswer : Direct.compile source c with
  | error e =>
      rw [hanswer] at hdirect
      rw [Parts.run_both_of_error _ _ _ _ hnone hdirect]
      exact ⟨rfl, fun r h => by cases h⟩
  | ok direct =>
      rw [hanswer] at hdirect
      rw [Parts.run_both _ _ _ _ hnone]
      obtain ⟨n, hn⟩ := exists_severity direct
        (answer.map fun response => response.toWire false).toOption
      dsimp only
      cases hlimit : tolerance about.setting about.fallback with
      | error e =>
          rw [Parts.run_runBoth_of_error _ _ _ _ hdirect hstaged hn hlimit, runBoth_of_severity hn]
          exact ⟨rfl, fun r h => by cases h⟩
      | ok limit =>
          rw [Parts.run_runBoth_of_ok _ _ _ _ hdirect hstaged hn hlimit, htime,
            run_persist_ofService source config o _ _ disk direct n, runBoth_of_severity hn]
          refine ⟨rfl, fun r h => ?_⟩
          obtain rfl := Except.ok.inj h
          rfl

/-- The run of a service is the run of its parts: it gives the same result, and leaves the same
artifact on the disk. -/
theorem run_ofService (htime : about.timestamp = o.timestamp) (disk : Disk)
    (before : Entries Value) :
    (((Parts.ofService source config o).run mode about c).run.run (disk, before)).1 =
      (run source mode (tolerance about.setting about.fallback) c).map Run.result ∧
    ∀ r, run source mode (tolerance about.setting about.fallback) c = .ok r →
      (((Parts.ofService source config o).run mode about c).run.run (disk, before)).2.1 =
        r.leaves config o c disk := by
  by_cases hnone : c.descriptor.isNone = true
  · unfold run
    rw [if_pos hnone, Parts.run_of_isNone _ _ _ _ _ hnone]
    exact ⟨rfl, fun r h => by cases h⟩
  cases mode with
  | both => exact run_both_ofService source config o htime disk before hnone
  | staged =>
      have hstaged := run_staged_ofService source config o (c := c) disk before
      unfold run
      rw [if_neg hnone, Parts.run_staged _ _ _ _ hnone, hstaged]
      rcases Staged.compile source c with ⟨answer, progress⟩
      cases answer with
      | error e => exact ⟨rfl, fun r h => by cases h⟩
      | ok response =>
          refine ⟨rfl, fun r h => ?_⟩
          obtain rfl := Except.ok.inj h
          exact (Run.leaves_of_none config o rfl disk).symm
  | direct =>
      have hdirect : ((Parts.ofService source config o).direct c).run.run (disk, before) =
          (Direct.compile source c, disk, before) := run_ofExcept _ _
      unfold run
      rw [if_neg hnone, Parts.run_direct _ _ _ _ hnone, hdirect]
      cases Direct.compile source c with
      | error e => exact ⟨rfl, fun r h => by cases h⟩
      | ok direct =>
          refine ⟨rfl, fun r h => ?_⟩
          obtain rfl := Except.ok.inj h
          exact (Run.leaves_of_none config o rfl disk).symm

end Service

/-- Whatever its parts do and whatever text the environment holds, a run of both compilers is to a
client the run of the direct one, under settings that tolerate a severity or none.  A staged
compiler that fails is reported as a missing answer, of the greatest severity. -/
theorem both_invisible {σ : Type} (p : Parts σ) (about : Circumstances) (c : Request.Context)
    (world : σ) (hsetting : about.setting = .null ∨ ∃ n, about.setting = .int n) :
    p.chosen .both about c world = p.chosen .direct about c world ∧
    (c.descriptor.isSome = true → ∀ direct next e last,
      (p.direct c).run.run world = (.ok direct, next) →
      (p.staged c).run.run next = (.error e, last) →
      ((p.run .both about c).run.run world).1 =
        .ok ⟨.both, direct, some [("note", .text unavailableNote)], some (.int maxSeverity)⟩) := by
  have hreadable : SettingReadable about.setting := by
    rcases hsetting with hnone | ⟨n, hn⟩
    · exact .inl hnone
    · exact .inr ⟨n, hn ▸ rfl⟩
  exact ⟨(p.chosen_both_eq_iff about c world).2 (.inr hreadable),
    fun hdescriptor _ _ _ _ hdirect hstaged =>
      p.run_both_of_stagedFails about c world hdescriptor hreadable hdirect hstaged⟩

section Staff

/-- Nothing is known of the time. -/
def unknownOccasion : Inspector.Occasion := ⟨0, 0, "", "", "", "testing", [], []⟩

/-- The parts of a service that lists the staff, with no recorder. -/
def staffParts : Parts (Disk × Entries Value) :=
  Parts.ofService (staffWith (.text "9")) (.error .missingProperty) unknownOccasion

theorem direct_staffParts (world : Disk × Entries Value) :
    (staffParts.direct (staffSearched "pin" "9")).run.run world =
      (.ok (staffAnswer true), world) := by
  have hfound := compile_staffSearched (.text "9") (.inr rfl : "pin" = "name" ∨ "pin" = "pin") "9"
  rw [holds_staffQuery_nine] at hfound
  show (MonadExcept.ofExcept (Direct.compile (staffWith (.text "9")) (staffSearched "pin" "9")) :
    Acting (Disk × Entries Value) (Entries Value)).run.run world = _
  rw [hfound, run_ofExcept]

/-- The staff is listed although the staged compiler fails, there is no recorder and the text in
place of the tolerated severity is none. -/
theorem invisible_staff_stagedFails :
    let p := { staffParts with staged := fun _ => throw Failure.unavailable }
    let about : Circumstances := ⟨.null, some "lots", ""⟩
    let c := staffSearched "pin" "9"
    p.chosen .both about c (.empty, []) = p.chosen .direct about c (.empty, []) ∧
    ((p.run .both about c).run.run (.empty, [])).1 = .ok ⟨.both, staffAnswer true,
      some [("note", .text unavailableNote)], some (.int maxSeverity)⟩ := by
  intro p about c
  obtain ⟨hsame, hmissing⟩ := both_invisible p about c (.empty, []) (.inl rfl)
  exact ⟨hsame, hmissing rfl _ _ _ _ (direct_staffParts _) rfl⟩

end Staff

end AdminGrid.Parity
