import AdminGrid.Proofs.Inspector.Retention

/-!
# Storing an artifact

An artifact is stored in steps: its folder is made ready, its text is written under a temporary
name, the file is given its own name, and the number of artifacts is looked after.  A failure before
the last step undoes what was done, unless the name is one that no file can have: then the temporary
file is left, and it counts as an artifact.  In the last step the artifact is there already, so a
failure to look after the others leaves an artifact whose path is not answered, and retention may
evict the one whose path is.
-/

namespace AdminGrid.Inspector

open Disk

section Writing

variable {path target : Path} {content : String} {time : Int} {d : Disk}

theorem prepare_eq (folder : Path) (d : Disk) :
    prepare folder d = if d.isBlocked folder || d.fails then (false, d.next)
      else (!d.next.fails, { d.next.next with folders := d.folders ++ [folder] }) := by
  have hstep : prepare folder d = (if d.isBlocked folder || !(succeeds d).1 then pure false
      else do
        modify fun d => { d with folders := d.folders ++ [folder] }
        succeeds : OnDisk Bool) (succeeds d).2 := rfl
  rw [hstep, succeeds_eq, Bool.not_not]
  split_ifs
  · rfl
  · exact succeeds_eq { d.next with folders := d.folders ++ [folder] }

theorem writeTemporary_eq (path : Path) (content : String) (time : Int) (d : Disk) :
    writeTemporary path content time d = if d.fails then (false, d.next)
      else if d.next.fails then (false, d.next.next.remove path)
      else (true, d.next.next.put ⟨path, content, time⟩) := by
  rw [writeTemporary, bind_apply, succeeds_eq]
  cases d.fails with
  | true => rfl
  | false =>
      have hstep : succeeds (d.next.put ⟨path, "", time⟩) =
          (!d.next.fails, d.next.next.put ⟨path, "", time⟩) := succeeds_eq _
      have hremove : (d.next.next.put ⟨path, "", time⟩).remove path = d.next.next.remove path :=
        remove_put _ ⟨path, "", time⟩
      have hput : (d.next.next.put ⟨path, "", time⟩).put ⟨path, content, time⟩ =
          d.next.next.put ⟨path, content, time⟩ := put_put _ rfl
      rw [← hremove, ← hput]
      simp only [Bool.not_false, Bool.not_true, Bool.false_eq_true, if_false, bind_apply]
      show (if (succeeds (d.next.put ⟨path, "", time⟩)).1 = true then _ else _ : OnDisk Bool)
        (succeeds (d.next.put ⟨path, "", time⟩)).2 = _
      rw [hstep]
      cases d.next.fails <;> rfl

theorem prepare_of_serves {folder : Path} (hblocked : d.isBlocked folder = false)
    (h : d.Serves 2) :
    prepare folder d = (true, (d.passed 2).withFolder folder) := by
  have hfirst : d.fails = false := h.1.2
  have hsecond : d.next.fails = false := h.2
  rw [prepare_eq, hblocked, hfirst, hsecond]
  rfl

theorem prepare_of_not {folder : Path} (h : ¬ (d.isBlocked folder = false ∧ d.Serves 2)) :
    (prepare folder d).1 = false ∧ Clears [] d (prepare folder d).2 := by
  rw [prepare_eq]
  split_ifs with hready
  · exact ⟨rfl, clears_next d⟩
  · obtain ⟨hblocked, hfirst⟩ := Bool.or_eq_false_iff.1 (Bool.eq_false_of_not_eq_true hready)
    cases hsecond : d.next.fails with
    | true => exact ⟨rfl, (clears_passed 2 d).trans (clears_withFolder folder _)⟩
    | false => exact absurd ⟨hblocked, ⟨trivial, hfirst⟩, hsecond⟩ h

theorem writeTemporary_of_serves (h : d.Serves 2) :
    writeTemporary path content time d = (true, (d.passed 2).put ⟨path, content, time⟩) := by
  have hfirst : d.fails = false := h.1.2
  have hsecond : d.next.fails = false := h.2
  rw [writeTemporary_eq, hfirst, hsecond]
  rfl

theorem writeTemporary_of_not (hfresh : ∀ f ∈ d.files, f.path ≠ path) (content : String)
    (time : Int) (h : ¬ d.Serves 2) :
    (writeTemporary path content time d).1 = false ∧
      Clears [] d (writeTemporary path content time d).2 := by
  rw [writeTemporary_eq]
  split_ifs with hfirst hsecond
  · exact ⟨rfl, clears_next d⟩
  · rw [remove_of_forall_ne (d := d.next.next) hfresh]
    exact ⟨rfl, clears_passed 2 d⟩
  · have hserves : d.Serves 2 :=
      ⟨⟨trivial, Bool.eq_false_of_not_eq_true hfirst⟩, Bool.eq_false_of_not_eq_true hsecond⟩
    exact absurd hserves h

theorem giveName_eq (path target : Path) (content : String) (time : Int) (d : Disk) :
    giveName path target content time d =
      if target.name.toList.contains '\x00' then (false, d)
      else if maxName < target.name.utf8ByteSize ∨ d.fails = true then
        (false, d.next.remove path)
      else (true, (d.next.remove path).put ⟨target, content, time⟩) := by
  by_cases hnul : target.name.toList.contains '\x00' = true
  · rw [giveName, if_pos hnul, if_pos hnul]
    rfl
  · have hstep : giveName path target content time d =
        (if maxName < target.name.utf8ByteSize || !(succeeds (d.remove path)).1 then pure false
          else do
            modify (·.put ⟨target, content, time⟩)
            return true : OnDisk Bool) (succeeds (d.remove path)).2 := by
      rw [giveName, if_neg hnul]
      rfl
    have hsucceeds : succeeds (d.remove path) = (!d.fails, d.next.remove path) := succeeds_eq _
    rw [hstep, hsucceeds, if_neg hnul]
    simp only [Bool.not_not, Bool.or_eq_true, decide_eq_true_eq]
    split_ifs <;> rfl

end Writing

variable (c : Config) (o : Occasion) (d : ParityDiagnostic) (extra : Entries Value)

/-- The text of the artifact of a diagnostic, if it can be made and is not too large. -/
def storedText? : Option String :=
  match capture c o d extra with
  | .error _ => none
  | .ok artifact => match Json.write .artifact (.map artifact) with
    | .error _ => none
    | .ok content => if c.maxFileSize < content.utf8ByteSize then none else some content

/-- Where the artifact of a diagnostic belongs. -/
def target : Path := c.storagePath.child (fileName o d.tableName d.route)

/-- Where an artifact is written before it has its name. -/
def temporary : Path := c.storagePath.child (temporaryName o)

/-- Whether the text of an artifact is written under its temporary name. -/
structure Writes (content : String) (disk : Disk) : Prop where
  unblocked : disk.isBlocked c.storagePath = false
  serves : disk.Serves 4
  text : storedText? c o d extra = some content

/-- The disk with a file, after its folder was made and a number of operations succeeded. -/
def placed (f : File) (operations : Nat) (disk : Disk) : Disk :=
  ((disk.passed operations).withFolder c.storagePath).put f

theorem writeDocument_eq {folder : Path} {name content : String} {document : Entries Value}
    (hcontent : Json.write .artifact (.map document) = .ok content)
    (hsize : ¬ c.maxFileSize < content.utf8ByteSize) (disk : Disk) :
    writeDocument c o folder name document disk =
      let written := writeTemporary (folder.child (temporaryName o)) content o.fileTime disk
      if written.1 = false then (none, written.2)
      else
        let named := giveName (folder.child (temporaryName o)) (folder.child name) content
          o.fileTime written.2
        (if named.1 then some (folder.child name) else none, named.2) := by
  rw [writeDocument, hcontent]
  simp only [hsize, if_false, bind_apply]
  cases (writeTemporary (folder.child (temporaryName o)) content o.fileTime disk).1 with
  | false => rfl
  | true =>
      simp only [Bool.not_true, Bool.false_eq_true, if_false, bind_apply]
      cases (giveName (folder.child (temporaryName o)) (folder.child name) content o.fileTime
        (writeTemporary (folder.child (temporaryName o)) content o.fileTime disk).2).1 <;> rfl

/-- The steps of a store, each taken where the one before it succeeded. -/
theorem store_eq (henabled : c.enabled = true) (disk : Disk) :
    store c o d extra disk =
      let prepared := prepare c.storagePath disk
      if prepared.1 = false then (none, prepared.2)
      else match storedText? c o d extra with
        | none => (none, prepared.2)
        | some content =>
            let written := writeTemporary (temporary c o) content o.fileTime prepared.2
            if written.1 = false then (none, written.2)
            else
              let named := giveName (temporary c o) (target c o d) content o.fileTime written.2
              if named.1 = false then (none, named.2)
              else
                let retained := retain c o.now named.2
                (if retained.1 then some (target c o d) else none, retained.2) := by
  unfold storedText?
  rw [store, henabled]
  simp only [Bool.not_true, Bool.false_eq_true, if_false, bind_apply]
  generalize prepare c.storagePath disk = prepared
  cases prepared.1 with
  | false => rfl
  | true =>
      simp only [Bool.not_true, Bool.false_eq_true, if_false]
      cases capture c o d extra with
      | error failure => rfl
      | ok artifact =>
          simp only [bind_apply]
          cases hcontent : Json.write .artifact (.map artifact) with
          | error failure =>
              rw [writeDocument, hcontent]
              rfl
          | ok content =>
              by_cases hsize : c.maxFileSize < content.utf8ByteSize
              · rw [writeDocument, hcontent]
                simp only [hsize, if_true]
                rfl
              · rw [writeDocument_eq c o hcontent hsize, ← temporary, ← target]
                simp only [hsize, if_false]
                generalize writeTemporary (temporary c o) content o.fileTime prepared.2 = written
                cases written.1 with
                | false => rfl
                | true =>
                    simp only [Bool.true_eq_false, if_false]
                    generalize giveName (temporary c o) (target c o d) content o.fileTime
                      written.2 = named
                    cases named.1 with
                    | false => rfl
                    | true =>
                        simp only [if_true, Bool.true_eq_false, if_false, bind_apply]
                        cases (retain c o.now named.2).1 <;> rfl

variable {c o d extra} {content : String} {disk : Disk}

theorem Writes.unique {content' : String} (h : Writes c o d extra content disk)
    (h' : Writes c o d extra content' disk) : content = content' :=
  Option.some.inj (h.text.symm.trans h'.text)

theorem target_name : (target c o d).name = fileName o d.tableName d.route := by
  simp [target, Path.child, Path.name]

/-- Where the text of an artifact is not written nothing changes. -/
theorem store_of_not_writes (henabled : c.enabled = true)
    (hfresh : ∀ f ∈ disk.files, f.path ≠ temporary c o)
    (h : ∀ content, ¬ Writes c o d extra content disk) :
    (store c o d extra disk).1 = none ∧ Clears [] disk (store c o d extra disk).2 := by
  rw [store_eq c o d extra henabled]
  by_cases hready : disk.isBlocked c.storagePath = false ∧ disk.Serves 2
  · have hprepared := (clears_passed 2 disk).trans (clears_withFolder c.storagePath _)
    rw [prepare_of_serves hready.1 hready.2]
    cases htext : storedText? c o d extra with
    | none => exact ⟨rfl, hprepared⟩
    | some content =>
        -- the operations on the temporary file are the third and the fourth of all
        have hunwritten : ¬ ((disk.passed 2).withFolder c.storagePath).Serves 2 := fun hserves =>
          h content ⟨hready.1, ⟨⟨hready.2, hserves.1.2⟩, hserves.2⟩, htext⟩
        have hfresh' : ∀ f ∈ ((disk.passed 2).withFolder c.storagePath).files,
            f.path ≠ temporary c o := hfresh
        obtain ⟨hfailed, hclears⟩ := writeTemporary_of_not hfresh' content o.fileTime hunwritten
        simp only [hfailed, Bool.true_eq_false, if_false, if_true, true_and]
        exact hprepared.trans hclears
  · obtain ⟨hfailed, hclears⟩ := prepare_of_not hready
    simp only [hfailed, if_true, true_and]
    exact hclears

/-- Once its text is written an artifact is given its name, and the others are looked after. -/
theorem store_of_writes (henabled : c.enabled = true) (h : Writes c o d extra content disk) :
    store c o d extra disk =
      let named := giveName (temporary c o) (target c o d) content o.fileTime
        (placed c ⟨temporary c o, content, o.fileTime⟩ 4 disk)
      if named.1 = false then (none, named.2)
      else
        let retained := retain c o.now named.2
        (if retained.1 then some (target c o d) else none, retained.2) := by
  obtain ⟨hblocked, ⟨⟨hready, hthird⟩, hfourth⟩, htext⟩ := h
  have hwritten : ((disk.passed 2).withFolder c.storagePath).Serves 2 :=
    ⟨⟨trivial, hthird⟩, hfourth⟩
  rw [store_eq c o d extra henabled, prepare_of_serves hblocked hready, htext]
  simp only [writeTemporary_of_serves hwritten]
  rfl

/-- The artifact of a diagnostic in a file. -/
def artifactFile (c : Config) (o : Occasion) (d : ParityDiagnostic) (content : String) : File :=
  ⟨target c o d, content, o.fileTime⟩

/-- The text of an artifact in the file that has no name yet. -/
def temporaryFile (c : Config) (o : Occasion) (content : String) : File :=
  ⟨temporary c o, content, o.fileTime⟩

/-- The disk with an artifact under its name, before the number of artifacts is looked at. -/
def named (c : Config) (o : Occasion) (d : ParityDiagnostic) (content : String) (disk : Disk) :
    Disk :=
  placed c (artifactFile c o d content) 5 disk

/-- Whether the text of an artifact is written for a name that no file can have. -/
def Abandons (c : Config) (o : Occasion) (d : ParityDiagnostic) (extra : Entries Value)
    (content : String) (disk : Disk) : Prop :=
  Writes c o d extra content disk ∧ '\x00' ∈ (fileName o d.tableName d.route).toList

/-- Whether an artifact gets its name. -/
structure Names (c : Config) (o : Occasion) (d : ParityDiagnostic) (extra : Entries Value)
    (content : String) (disk : Disk) : Prop where
  writes : Writes c o d extra content disk
  nameable : '\x00' ∉ (fileName o d.tableName d.route).toList
  short : (fileName o d.tableName d.route).utf8ByteSize ≤ maxName
  serves : disk.Serves 5

theorem store_of_abandons (henabled : c.enabled = true) (h : Abandons c o d extra content disk) :
    store c o d extra disk = (none, placed c (temporaryFile c o content) 4 disk) := by
  have hnul : (target c o d).name.toList.contains '\x00' = true := by
    rw [target_name, List.contains_iff_mem]
    exact h.2
  rw [store_of_writes henabled h.1, giveName_eq, if_pos hnul]
  rfl

theorem remove_temporary (hfresh : ∀ f ∈ disk.files, f.path ≠ temporary c o) :
    (placed c (temporaryFile c o content) 4 disk).next.remove (temporary c o) =
      (disk.passed 5).withFolder c.storagePath :=
  (remove_put ((disk.passed 5).withFolder c.storagePath) (temporaryFile c o content)).trans
    (remove_of_forall_ne hfresh)

theorem store_of_names (henabled : c.enabled = true)
    (hfresh : ∀ f ∈ disk.files, f.path ≠ temporary c o) (h : Names c o d extra content disk) :
    store c o d extra disk =
      let retained := retain c o.now (named c o d content disk)
      (if retained.1 then some (target c o d) else none, retained.2) := by
  have hnul : ¬ (target c o d).name.toList.contains '\x00' = true := by
    rw [target_name, List.contains_iff_mem]
    exact h.nameable
  have hname : ¬ (maxName < (target c o d).name.utf8ByteSize ∨
      (placed c (temporaryFile c o content) 4 disk).fails = true) := by
    rw [target_name, not_or]
    exact ⟨Nat.not_lt.2 h.short, fun hfails => Bool.false_ne_true (h.serves.2.symm.trans hfails)⟩
  rw [store_of_writes henabled h.writes, giveName_eq, if_neg hnul, ← temporaryFile, if_neg hname,
    remove_temporary hfresh]
  rfl

/-- Where an artifact is not written, or gets no name though it could have one, nothing changes. -/
theorem store_of_not_names (henabled : c.enabled = true)
    (hfresh : ∀ f ∈ disk.files, f.path ≠ temporary c o)
    (habandons : ∀ content, ¬ Abandons c o d extra content disk)
    (hnames : ∀ content, ¬ Names c o d extra content disk) :
    (store c o d extra disk).1 = none ∧ Clears [] disk (store c o d extra disk).2 := by
  by_cases hwrites : ∃ content, Writes c o d extra content disk
  · obtain ⟨content, hwrites⟩ := hwrites
    have hnul : ¬ '\x00' ∈ (fileName o d.tableName d.route).toList := fun hnul =>
      habandons content ⟨hwrites, hnul⟩
    have hname : maxName < (target c o d).name.utf8ByteSize ∨
        (placed c (temporaryFile c o content) 4 disk).fails = true := by
      by_contra hname
      obtain ⟨hshort, hfifth⟩ := not_or.1 hname
      rw [target_name] at hshort
      exact hnames content ⟨hwrites, hnul, Nat.not_lt.1 hshort,
        hwrites.serves, Bool.eq_false_of_not_eq_true hfifth⟩
    rw [← target_name (c := c), ← List.contains_iff_mem] at hnul
    rw [store_of_writes henabled hwrites, giveName_eq, if_neg hnul, ← temporaryFile, if_pos hname,
      remove_temporary hfresh]
    exact ⟨rfl, (clears_passed 5 disk).trans (clears_withFolder c.storagePath _)⟩
  · exact store_of_not_writes henabled hfresh (not_exists.1 hwrites)

theorem safePart_ne_dot {s : String} {ch : Char} (h : ch ∈ (safePart s).toList) : ch ≠ '.' := by
  rw [safePart, String.toList_ofList, List.mem_map] at h
  obtain ⟨ch', -, rfl⟩ := h
  by_cases hunsafe : isUnsafe ch' = true
  · rw [if_pos hunsafe]
    decide
  · rw [if_neg hunsafe]
    rintro rfl
    exact hunsafe rfl

/-- No artifact has a temporary name: that one starts with a dot. -/
theorem fileName_ne_temporaryName (o o' : Occasion) (table route : String) :
    fileName o table route ≠ temporaryName o' := by
  intro h
  have hchars := congrArg String.toList h
  have hdot : ".tmp_".toList = '.' :: "tmp_".toList := by decide
  have hbar : "_".toList = ['_'] := by decide
  rw [fileName, temporaryName] at hchars
  simp only [String.toList_append, hdot, List.cons_append] at hchars
  -- the first character is one of the table, or the bar behind a table without characters
  generalize htable : (safePart (if table = "" then "unknown" else table)).toList = chars at hchars
  cases chars with
  | nil =>
      split_ifs at hchars <;> simp [hbar] at hchars
  | cons ch rest =>
      exact safePart_ne_dot (htable ▸ List.mem_cons_self) (List.cons.inj hchars).1

theorem target_ne_temporary (o o' : Occasion) : target c o d ≠ temporary c o' := fun h => by
  have hname := congrArg Path.name h
  rw [target_name, temporary, Path.name, Path.child, List.getLast?_concat] at hname
  exact fileName_ne_temporaryName _ _ _ _ hname

theorem lists_child {name : String} (h : Text.endsWith ending name = true) (content : String)
    (time : Int) : c.lists ⟨c.storagePath.child name, content, time⟩ = true := by
  rw [Config.lists, Bool.and_eq_true, beq_iff_eq, Path.name, Path.parent, Path.child,
    List.getLast?_concat, List.dropLast_concat]
  exact ⟨rfl, h⟩

theorem lists_artifactFile : c.lists (artifactFile c o d content) = true :=
  lists_child (Text.endsWith_append _ _) _ _

theorem lists_temporaryFile : c.lists (temporaryFile c o content) = true :=
  lists_child (Text.endsWith_append _ _) _ _

/-- Whether storing an artifact is all or nothing: a path that is answered leads to a listed file
with the text of the artifact, without a path the listing holds what it held, and no temporary file
is left. -/
structure AllOrNothing (c : Config) (o : Occasion) (d : ParityDiagnostic) (extra : Entries Value)
    (disk : Disk) : Prop where
  complete : ∀ path, (store c o d extra disk).1 = some path →
    ∃ content, storedText? c o d extra = some content ∧
      ⟨path, content, o.fileTime⟩ ∈ c.artifacts (store c o d extra disk).2
  unchanged : (store c o d extra disk).1 = none →
    ∀ f, f ∈ c.artifacts (store c o d extra disk).2 ↔ f ∈ c.artifacts disk
  tidy : ∀ f ∈ (store c o d extra disk).2.files, f.path ≠ temporary c o

/-- Whether an artifact gets its name and stays, but no path is answered. -/
structure Forgets (c : Config) (o : Occasion) (d : ParityDiagnostic) (extra : Entries Value)
    (content : String) (disk : Disk) : Prop where
  names : Names c o d extra content disk
  new : artifactFile c o d content ∉ c.artifacts disk
  unanswered : (retain c o.now (named c o d content disk)).1 = false

/-- Whether the path of an artifact is answered that is evicted at once. -/
structure Discards (c : Config) (o : Occasion) (d : ParityDiagnostic) (extra : Entries Value)
    (content : String) (disk : Disk) : Prop where
  names : Names c o d extra content disk
  answered : (retain c o.now (named c o d content disk)).1 = true
  lost : artifactFile c o d content ∉ c.artifacts (retain c o.now (named c o d content disk)).2

theorem mem_artifacts_named {f : File} :
    f ∈ c.artifacts (named c o d content disk) ↔
      f = artifactFile c o d content ∨ f ∈ c.artifacts disk ∧ f.path ≠ target c o d := by
  have hfiles : (named c o d content disk).files =
      (disk.put (artifactFile c o d content)).files := rfl
  rw [c.artifacts_congr hfiles, c.mem_artifacts_put lists_artifactFile]
  rfl

theorem distinct_named (c : Config) (o : Occasion) (d : ParityDiagnostic) (content : String)
    (hd : disk.Distinct) : (named c o d content disk).Distinct :=
  distinct_put (d := (disk.passed 5).withFolder c.storagePath) hd _

/-- An artifact that gets its name is answered for where retention can be carried out. -/
theorem store_of_datable (henabled : c.enabled = true) (hd : disk.Distinct)
    (hfresh : ∀ f ∈ disk.files, f.path ≠ temporary c o) (h : Names c o d extra content disk)
    (hdatable : c.Datable) (hlooks : (disk.passed 5).fails = false) :
    (store c o d extra disk).1 = some (target c o d) := by
  have hanswer : (retain c o.now (named c o d content disk)).1 = true :=
    retain_isOk c hdatable o.now (distinct_named c o d content hd) hlooks
  rw [store_of_names henabled hfresh h]
  simp only [hanswer, if_true]

/-- A stored artifact leaves no temporary file. -/
theorem tidy_retain_named (hd : disk.Distinct) (hfresh : ∀ f ∈ disk.files, f.path ≠ temporary c o)
    {f : File} (hf : f ∈ (retain c o.now (named c o d content disk)).2.files) :
    f.path ≠ temporary c o := by
  obtain ⟨gone, -, hloses⟩ := retain_loses c o.now (distinct_named c o d content hd)
  have hmem : f ∈ (disk.put (artifactFile c o d content)).files := (hloses.mem_iff.1 hf).1
  rcases List.mem_append.1 hmem with hold | hnew
  · exact hfresh f (List.mem_of_mem_filter hold)
  · rw [List.mem_singleton.1 hnew]
    exact target_ne_temporary o o

theorem allOrNothing_of_names (henabled : c.enabled = true) (hd : disk.Distinct)
    (hfresh : ∀ f ∈ disk.files, f.path ≠ temporary c o) (h : Names c o d extra content disk) :
    AllOrNothing c o d extra disk ↔
      ¬ Forgets c o d extra content disk ∧ ¬ Discards c o d extra content disk := by
  have hstore := store_of_names henabled hfresh h
  cases hanswer : (retain c o.now (named c o d content disk)).1 with
  | true =>
      -- the path is answered, and retention may have evicted what it leads to
      simp only [hanswer, if_true] at hstore
      have hforgets : ¬ Forgets c o d extra content disk := fun hforgets =>
        Bool.false_ne_true (hforgets.unanswered.symm.trans hanswer)
      constructor
      · refine fun hall => ⟨hforgets, fun hdiscards => hdiscards.lost ?_⟩
        obtain ⟨content', htext, hmem⟩ := hall.complete (target c o d) (by rw [hstore])
        obtain rfl : content = content' := Option.some.inj (h.writes.text.symm.trans htext)
        rwa [hstore] at hmem
      · rintro ⟨-, hdiscards⟩
        have hmem : artifactFile c o d content ∈
            c.artifacts (retain c o.now (named c o d content disk)).2 :=
          by_contra fun hlost => hdiscards ⟨h, hanswer, hlost⟩
        constructor <;> rw [hstore]
        · rintro path hpath
          rw [← Option.some.inj hpath]
          exact ⟨content, h.writes.text, hmem⟩
        · exact nofun
        · exact fun f => tidy_retain_named hd hfresh
  | false =>
      -- no path is answered, and the artifact stays, since retention has not begun
      simp only [hanswer, Bool.false_eq_true, if_false] at hstore
      have hdiscards : ¬ Discards c o d extra content disk := fun hdiscards =>
        Bool.false_ne_true (hanswer.symm.trans hdiscards.answered)
      have hlisting := c.artifacts_congr
        (files_retain_of_not_isOk c o.now (distinct_named c o d content hd) hanswer)
      constructor
      · refine fun hall => ⟨fun hforgets => hforgets.new ?_, hdiscards⟩
        have hsame := hall.unchanged (by rw [hstore]) (artifactFile c o d content)
        rw [hstore, hlisting, mem_artifacts_named] at hsame
        exact hsame.1 (.inl rfl)
      · rintro ⟨hforgets, -⟩
        have hold : artifactFile c o d content ∈ c.artifacts disk :=
          by_contra fun hnew => hforgets ⟨h, hnew, hanswer⟩
        constructor <;> rw [hstore]
        · exact nofun
        · intro _ f
          rw [hlisting, mem_artifacts_named]
          refine ⟨?_, fun hf => ?_⟩
          · rintro (rfl | ⟨hf, -⟩)
            · exact hold
            · exact hf
          · -- the very same file was there before
            refine (em (f.path = target c o d)).imp (fun hpath => ?_) fun hpath => ⟨hf, hpath⟩
            exact hd.eq_of_path_eq (c.mem_artifacts.1 hf).1 (c.mem_artifacts.1 hold).1 hpath
        · exact fun f => tidy_retain_named hd hfresh

theorem Forgets.cause (hd : disk.Distinct) (h : Forgets c o d extra content disk) :
    (disk.passed 5).fails = true ∨ ¬ c.Datable := by
  by_contra hneither
  obtain ⟨hfails, hdatable⟩ := not_or.1 hneither
  have hanswer : (retain c o.now (named c o d content disk)).1 = true :=
    retain_isOk c (not_not.1 hdatable) o.now (distinct_named c o d content hd)
      (Bool.eq_false_of_not_eq_true hfails)
  exact Bool.false_ne_true (h.unanswered.symm.trans hanswer)

theorem Discards.evicted (hd : disk.Distinct) (h : Discards c o d extra content disk) :
    artifactFile c o d content ∈ c.evicted o.now (c.artifacts (named c o d content disk)) := by
  have hnew : artifactFile c o d content ∈ c.artifacts (named c o d content disk) :=
    mem_artifacts_named.2 (.inl rfl)
  obtain ⟨gone, hgone, hloses⟩ := retain_loses c o.now (distinct_named c o d content hd)
  have hpath : (artifactFile c o d content).path ∈ gone := by
    by_contra hkept
    refine h.lost ?_
    rw [c.artifacts_of_loses hloses, List.mem_filter, decide_eq_true_eq]
    exact ⟨hnew, hkept⟩
  obtain ⟨g, hg, hpath⟩ := List.mem_map.1 (hgone hpath)
  have hsame : g = artifactFile c o d content := (distinct_named c o d content hd).eq_of_path_eq
    (c.mem_artifacts.1 (c.evicted_subset hg)).1 (c.mem_artifacts.1 hnew).1 hpath
  rwa [← hsame]

/-- Storing is all or nothing exactly if no temporary file is abandoned, no artifact that stays is
forgotten, and none is discarded whose path is answered.  It is forgotten only where the folder
cannot be looked for or the age of artifacts cannot be counted back, and discarded only where
retention evicts it. -/
theorem allOrNothing_iff (henabled : c.enabled = true) (hd : disk.Distinct)
    (hfresh : ∀ f ∈ disk.files, f.path ≠ temporary c o) :
    (AllOrNothing c o d extra disk ↔ ∀ content, ¬ Abandons c o d extra content disk ∧
      ¬ Forgets c o d extra content disk ∧ ¬ Discards c o d extra content disk) ∧
    (∀ content, Forgets c o d extra content disk →
      (disk.passed 5).fails = true ∨ ¬ c.Datable) ∧
    (∀ content, Discards c o d extra content disk → artifactFile c o d content ∈
      c.evicted o.now (c.artifacts (named c o d content disk))) := by
  refine ⟨?_, fun _ h => h.cause hd, fun _ h => h.evicted hd⟩
  by_cases habandons : ∃ content, Abandons c o d extra content disk
  · obtain ⟨content, habandons⟩ := habandons
    refine ⟨fun hall => ?_, fun hnone => absurd habandons (hnone content).1⟩
    have htidy := hall.tidy (temporaryFile c o content)
    rw [store_of_abandons henabled habandons] at htidy
    exact absurd rfl (htidy (mem_put _ _))
  · by_cases hnames : ∃ content, Names c o d extra content disk
    · obtain ⟨content, hnames⟩ := hnames
      rw [allOrNothing_of_names henabled hd hfresh hnames]
      refine ⟨fun h content' => ⟨fun h' => habandons ⟨_, h'⟩, fun h' => h.1 ?_, fun h' => h.2 ?_⟩,
        fun h => (h content).2⟩
      · rwa [hnames.writes.unique h'.names.writes]
      · rwa [hnames.writes.unique h'.names.writes]
    · obtain ⟨hanswer, hclears⟩ := store_of_not_names henabled hfresh
        (not_exists.1 habandons) (not_exists.1 hnames)
      refine ⟨fun _ content => ⟨fun h => habandons ⟨_, h⟩, fun h => hnames ⟨_, h.names⟩,
        fun h => hnames ⟨_, h.names⟩⟩, fun _ => ⟨?_, ?_, ?_⟩⟩
      · rw [hanswer]
        exact nofun
      · intro _ f
        rw [c.artifacts_congr hclears.files_eq]
      · rw [hclears.files_eq]
        exact hfresh

/-- An inspector that keeps two artifacts for a week. -/
def keepsTwo : Config := ⟨true, .of "artifacts", 2, 7, 10485760, false, true, true, false⟩

/-- An occasion at the tenth second. -/
def atTen : Occasion := ⟨10, 10, "", "10", "", "", [], []⟩

/-- A diagnostic of answers that agree. -/
def agreement (table : String) : ParityDiagnostic :=
  ⟨"", "", table, [("note", .text "no_diff")], []⟩

theorem keepsTwo_datable : keepsTwo.Datable := by
  show (7 * 86400 : Int).natAbs < floatLimit
  decide +kernel

theorem exists_writes_agreement (table : String) (disk : Disk) (hnil : disk.failures = [])
    (hunblocked : disk.isBlocked keepsTwo.storagePath = false)
    (htext : (storedText? keepsTwo atTen (agreement table) []).isSome = true) :
    ∃ content, Writes keepsTwo atTen (agreement table) [] content disk := by
  obtain ⟨content, htext⟩ := Option.isSome_iff_exists.1 htext
  exact ⟨content, hunblocked, serves_of_nil hnil 4, htext⟩

theorem allOrNothing_orders :
    AllOrNothing keepsTwo atTen (agreement "orders") [] .empty := by
  obtain ⟨hiff, hforgets, hdiscards⟩ := @allOrNothing_iff keepsTwo atTen
    (agreement "orders") [] .empty rfl List.nodup_nil nofun
  refine hiff.2 fun content => ⟨fun h => ?_, fun h => ?_, fun h => ?_⟩
  · exact absurd h.2 (by decide)
  · rcases hforgets content h with hfails | hdatable
    · cases hfails
    · exact hdatable keepsTwo_datable
  · have hfew : ((keepsTwo.artifacts (named keepsTwo atTen (agreement "orders")
        content .empty)).length : Int) ≤ 2 := by
      rw [Config.artifacts_eq, List.length_mergeSort]
      refine Int.le_trans (Int.ofNat_le.2 (List.length_filter_le _ _)) ?_
      show (1 : Int) ≤ 2
      decide
    have hevicted := hdiscards content h
    rw [keepsTwo.evicted_of_le hfew] at hevicted
    cases hevicted

/-- The name of a table may hold a character that no name of a file can hold: no path is answered,
and the temporary file is left among the artifacts. -/
theorem not_allOrNothing_unnameable :
    (store keepsTwo atTen (agreement "a\x00b") [] .empty).1 = none ∧
      keepsTwo.artifacts .empty = [] ∧
      (keepsTwo.artifacts
        (store keepsTwo atTen (agreement "a\x00b") [] .empty).2).map (·.path.name) =
          [".tmp_10.json"] ∧
      ¬ AllOrNothing keepsTwo atTen (agreement "a\x00b") [] .empty := by
  obtain ⟨content, hwrites⟩ := exists_writes_agreement "a\x00b" .empty rfl rfl
    (by decide +kernel)
  have habandons : Abandons keepsTwo atTen (agreement "a\x00b") [] content .empty :=
    ⟨hwrites, by decide⟩
  have hstore := store_of_abandons rfl habandons
  have hlisting : keepsTwo.artifacts (placed keepsTwo
      (temporaryFile keepsTwo atTen content) 4 .empty) =
        [temporaryFile keepsTwo atTen content] := by
    have hfiles : (placed keepsTwo (temporaryFile keepsTwo atTen content) 4
        .empty).files = [temporaryFile keepsTwo atTen content] := rfl
    rw [Config.artifacts_eq, hfiles, List.filter_cons_of_pos lists_temporaryFile, List.filter_nil]
    exact List.mergeSort_singleton _
  refine ⟨by rw [hstore], by rw [Config.artifacts_eq]; exact List.mergeSort_nil, ?_, fun hall => ?_⟩
  · rw [hstore, hlisting]
    rfl
  · have htidy := hall.tidy (temporaryFile keepsTwo atTen content)
    rw [hstore] at htidy
    exact htidy (mem_put _ _) rfl

end AdminGrid.Inspector
