import AdminGrid.Proofs.Layout.ShownFields
import AdminGrid.Proofs.Outcome

/-!
# The formulas that come in

Going through the formulas in order, one comes in if its name is free and it has a spot: the start,
the end, a column, or an index among the columns.  Whichever group puts it in, the columns that are
there keep their order, and what is moved to the end are formulas alone.  So no column is lost, none
is doubled, and a list without doubles stays one.
-/

namespace AdminGrid

/-- The index that an anchor denotes: its own, or that of a text of digits that can be read. -/
def Anchor.denoted? : Anchor → Option Int
  | .index i => some i
  | .name s =>
      if Text.strip s ≠ "" ∧ (Text.strip s).toList.all Text.isDigit = true then
        Reading.int? (Text.strip s)
      else none

namespace Layout

/-- A target is there: it is a column, or denotes an index among the columns. -/
def IsThere (columns : List String) (target : Anchor) : Prop :=
  (∃ x ∈ columns, target = .name x) ∨ ∃ i ∈ target.denoted?, 0 ≤ i ∧ i < columns.length

/-- A formula stands at the start, at the end, or beside a target that is there. -/
def HasSpot (columns : List String) (f : FormulaSpec) : Prop :=
  f.placement.anchor = some (.name "first") ∨ f.placement.anchor = some (.name "last") ∨
    ∃ target ∈ targetOf f, IsThere columns target

/-- A formula comes in after others: its name is free, and it has a spot. -/
def ComesIn (columns : List String) (earlier : List FormulaSpec) (f : FormulaSpec) : Prop :=
  f.name ∉ columns ∧ f.name ∉ earlier.map (·.name) ∧ HasSpot columns f

instance (columns : List String) (target : Anchor) : Decidable (IsThere columns target) :=
  inferInstanceAs (Decidable (_ ∨ _))

instance (columns : List String) (f : FormulaSpec) : Decidable (HasSpot columns f) :=
  inferInstanceAs (Decidable (_ ∨ _))

instance (columns : List String) (earlier : List FormulaSpec) (f : FormulaSpec) :
    Decidable (ComesIn columns earlier f) :=
  inferInstanceAs (Decidable (_ ∧ _))

/-- The formulas that come in after others, with these in front. -/
def comingIn (columns : List String) (earlier formulas : List FormulaSpec) : List FormulaSpec :=
  formulas.foldl (fun earlier f => if ComesIn columns earlier f then earlier ++ [f] else earlier)
    earlier

section Accepted

variable {columns : List String} {f : FormulaSpec} {target : Anchor}

theorem denoted?_of_targetIndex? {i? : Option Int} (h : targetIndex? target = .ok i?) :
    target.denoted? = i? := by
  cases target with
  | index i =>
      rw [targetIndex?] at h
      split at h
      · cases h
      · exact Except.ok.inj h
  | name s =>
      by_cases hdigits : Text.strip s ≠ "" ∧ (Text.strip s).toList.all Text.isDigit = true
      · have hread : (Text.strip s = "" || !(Text.strip s).toList.all Text.isDigit) = false := by
          simpa using hdigits
        rw [Anchor.denoted?, if_pos hdigits]
        cases hint : Reading.int? (Text.strip s) with
        | none => simp [targetIndex?, hread, hint] at h
        | some i => simpa [targetIndex?, hread, hint] using h
      · have hskip : (Text.strip s = "" || !(Text.strip s).toList.all Text.isDigit) = true := by
          by_contra hread
          exact hdigits (by simpa using hread)
        rw [Anchor.denoted?, if_neg hdigits]
        simpa [targetIndex?, hskip] using h

theorem besideOf_isSome_iff {name : String} {place? : Option Beside}
    (h : besideOf columns name target = .ok place?) :
    place?.isSome = true ↔ IsThere columns target := by
  by_cases hname : ∃ x ∈ columns, target = .name x
  · obtain ⟨x, hx, rfl⟩ := hname
    rw [besideOf_name_of_mem hx] at h
    obtain rfl := Except.ok.inj h
    exact iff_of_true rfl (Or.inl ⟨x, hx, rfl⟩)
  · rw [besideOf_of_not_name hname] at h
    obtain ⟨i?, hindex, rfl⟩ := map_eq_ok.1 h
    rw [IsThere, or_iff_right hname, denoted?_of_targetIndex? hindex, Option.isSome_map,
      Option.isSome_filter, Option.any_eq_true]
    simp

/-- A formula that is looked at has a spot exactly if its placement names one. -/
theorem spotOf_isSome_iff {spot? : Option Spot} (h : spotOf columns f = .ok spot?) :
    spot?.isSome = true ↔ HasSpot columns f := by
  unfold spotOf at h
  unfold HasSpot
  by_cases hbeside : isBeside f = true
  · have hanchor := hbeside
    rw [isBeside, Bool.and_eq_true, bne_iff_ne, bne_iff_ne] at hanchor
    rw [if_pos hbeside] at h
    rw [or_iff_right hanchor.1, or_iff_right hanchor.2]
    cases htarget : targetOf f with
    | none =>
        rw [htarget] at h
        obtain rfl := Except.ok.inj h
        simp
    | some target =>
        rw [htarget] at h
        obtain ⟨place?, hplace, rfl⟩ := map_eq_ok.1 h
        rw [Option.isSome_map, besideOf_isSome_iff hplace]
        simp
  · rw [if_neg hbeside] at h
    have hsome : spot?.isSome = true := by
      split at h <;> exact Except.ok.inj h ▸ rfl
    refine iff_of_true hsome ?_
    rcases anchor_of_not_beside hbeside with hfirst | hlast
    · exact Or.inl hfirst
    · exact Or.inr (Or.inl hlast)

theorem mem_taken_cons_iff {earlier : List FormulaSpec} {taken : List String}
    (htaken : ∀ x, x ∈ taken ↔ x ∈ columns ∨ x ∈ earlier.map (·.name)) (x : String) :
    x ∈ f.name :: taken ↔ x ∈ columns ∨ x ∈ (earlier ++ [f]).map (·.name) := by
  rw [List.mem_cons, htaken, List.map_append, List.mem_append, List.map_singleton,
    List.mem_singleton]
  tauto

/-- The accepted formulas are those that come in. -/
theorem comingIn_eq {formulas earlier : List FormulaSpec} {taken : List String}
    {accepted : List (FormulaSpec × Spot)}
    (htaken : ∀ x, x ∈ taken ↔ x ∈ columns ∨ x ∈ earlier.map (·.name))
    (h : acceptedFormulas columns formulas taken = .ok accepted) :
    comingIn columns earlier formulas = earlier ++ accepted.map (·.1) := by
  induction formulas generalizing earlier taken accepted with
  | nil =>
      obtain rfl := Except.ok.inj h
      exact (List.append_nil earlier).symm
  | cons f rest ih =>
      have hfree : f.name ∉ taken ↔ f.name ∉ columns ∧ f.name ∉ earlier.map (·.name) := by
        rw [htaken, not_or]
      rw [comingIn, List.foldl_cons, ← comingIn]
      unfold acceptedFormulas at h
      by_cases hmem : f.name ∈ taken
      · rw [if_pos (by simpa using hmem)] at h
        have hout : ¬ ComesIn columns earlier f := fun hin =>
          hfree.2 ⟨hin.1, hin.2.1⟩ hmem
        rw [if_neg hout]
        exact ih htaken h
      · rw [if_neg (by simpa using hmem)] at h
        obtain ⟨spot?, hspot, h⟩ := bind_eq_ok.1 h
        have hin : ComesIn columns earlier f ↔ spot?.isSome = true := by
          rw [spotOf_isSome_iff hspot, ComesIn, ← and_assoc, ← hfree, and_iff_right hmem]
        cases spot? with
        | none =>
            rw [if_neg (by simpa using hin)]
            exact ih htaken h
        | some spot =>
            obtain ⟨others, hothers, h⟩ := bind_eq_ok.1 h
            obtain rfl := pure_eq_ok.1 h
            rw [if_pos (by simpa using hin), ih (mem_taken_cons_iff htaken) hothers]
            simp

end Accepted

section Order

variable {p : String → Bool} {columns cs names : List String}

theorem filter_foldl_insertAt {β : Type} {place : List String → β → Nat} {name : β → String}
    {bs : List β} (h : ∀ b ∈ bs, p (name b) = false) :
    (bs.foldl (fun cs b => insertAt cs (place cs b) (name b)) cs).filter p = cs.filter p := by
  induction bs generalizing cs with
  | nil => rfl
  | cons b rest ih =>
      rw [List.foldl_cons, ih fun c hc => h c (List.mem_cons_of_mem b hc)]
      exact filter_insertAt p (h b List.mem_cons_self)

theorem filter_insertFirst (h : ∀ x ∈ names, p x = false) :
    (insertFirst cs names).filter p = cs.filter p := by
  rw [insertFirst_eq]
  exact filter_insertBlock h

theorem filter_insertLastAfter (h : ∀ x ∈ names, p x = false) :
    (insertLastAfter cs names).filter p = cs.filter p := by
  rw [insertLastAfter_eq]
  exact filter_insertBlock fun x hx => h x (mem_lastBlock.1 hx)

/-- Moving columns to the end leaves the others in their order. -/
theorem filter_moveToEnd (h : ∀ x ∈ names, p x = false) :
    (moveToEnd cs names).filter p = cs.filter p := by
  have hfold : ∀ moved : List String, (∀ x ∈ moved, p x = false) → ∀ cs : List String,
      (moved.foldl (fun cs name => cs.erase name ++ [name]) cs).filter p = cs.filter p := by
    intro moved hmoved
    induction moved with
    | nil => exact fun cs => rfl
    | cons name rest ih =>
        intro cs
        have hname : p name = false := hmoved name List.mem_cons_self
        have hnot : name ∉ cs.filter p := fun hmem => by
          simpa [hname] using (List.mem_filter.1 hmem).2
        rw [List.foldl_cons, ih fun x hx => hmoved x (List.mem_cons_of_mem name hx),
          List.filter_append, List.filter_singleton, hname, ← List.erase_filter,
          List.erase_of_not_mem hnot]
        exact List.append_nil _
  exact hfold _ (fun x hx => h x (by simpa using (List.mem_filter.1 hx).2)) cs

namespace Groups

variable {g : Groups}

/-- What is left to do once the formulas beside other columns are in. -/
def finish (g : Groups) (cs : List String) : List String :=
  g.lastBefore.foldl (fun cs name => insertAt cs (cs.length - 1) name)
    (if g.after.isEmpty || g.lastAfter.isEmpty then cs else moveToEnd cs g.lastAfter)

theorem insertInto_eq (g : Groups) (columns : List String) :
    g.insertInto columns = g.finish (g.withAfter columns) := rfl

theorem filter_withAfter (hfirst : ∀ x ∈ g.first, p x = false)
    (hlastAfter : ∀ x ∈ g.lastAfter, p x = false)
    (hbefore : ∀ b ∈ g.before, p b.name = false) (hafter : ∀ b ∈ g.after, p b.name = false) :
    (g.withAfter columns).filter p = columns.filter p := by
  have hstart : (g.withLastAfter columns).filter p = columns.filter p := by
    rw [withLastAfter, filter_insertLastAfter hlastAfter]
    exact filter_insertFirst hfirst
  rw [← hstart]
  exact (filter_foldl_insertAt hafter).trans (filter_foldl_insertAt hbefore)

theorem filter_finish (hlastAfter : ∀ x ∈ g.lastAfter, p x = false)
    (hlastBefore : ∀ x ∈ g.lastBefore, p x = false) : (g.finish cs).filter p = cs.filter p := by
  refine (filter_foldl_insertAt hlastBefore).trans ?_
  split
  · rfl
  · exact filter_moveToEnd hlastAfter

/-- The groups leave the columns that are no formulas in their order. -/
theorem filter_insertInto (h : ∀ x ∈ g.names, p x = false) :
    (g.insertInto columns).filter p = columns.filter p := by
  simp only [names, List.forall_mem_append, List.forall_mem_map] at h
  obtain ⟨hfirst, hlastAfter, hbefore, hafter, hlastBefore⟩ := h
  rw [insertInto_eq, filter_finish hlastAfter hlastBefore,
    filter_withAfter hfirst hlastAfter hbefore hafter]

end Groups

end Order

/-- Some names stand among the columns, each once, and nothing else has changed. -/
structure Joined (columns names result : List String) : Prop where
  /-- Without the names the columns are left, in their order and as often as before. -/
  rest : result.filter (fun x => x ∉ names) = columns
  once : ∀ x ∈ names, result.count x = 1

/-- What is put among columns without doubles leaves no double. -/
theorem Joined.nodup {columns names result : List String} (h : Joined columns names result)
    (hcolumns : columns.Nodup) : result.Nodup := by
  rw [List.nodup_iff_count_le_one]
  intro x
  by_cases hx : x ∈ names
  · exact Nat.le_of_eq (h.once x hx)
  · have hcount : (result.filter (fun x => x ∉ names)).count x = result.count x :=
      List.count_filter (by simpa using hx)
    rw [← hcount, h.rest]
    exact List.nodup_iff_count_le_one.1 hcolumns x

section Placed

variable {columns result : List String} {formulas : List FormulaSpec}

theorem joined_placeFormulas (h : placeFormulas columns formulas = .ok result) :
    Joined columns ((comingIn columns [] formulas).map (·.name)) result := by
  obtain ⟨accepted, haccepted, rfl⟩ := placeFormulas_eq_ok h
  obtain ⟨-, hnodup, hall⟩ := acceptedFormulas_spec haccepted
  have hnames : (groupsOf accepted).names.Perm (accepted.map (·.1.name)) :=
    perm_names_groupsOf fun a ha => (hall a ha).2
  have hcoming : (comingIn columns [] formulas).map (·.name) = accepted.map (·.1.name) := by
    rw [comingIn_eq (by simp) haccepted, List.nil_append, List.map_map]
    rfl
  have hnew : ∀ x ∈ accepted.map (·.1.name), x ∉ columns := by
    intro x hx
    obtain ⟨a, ha, rfl⟩ := List.mem_map.1 hx
    exact (hall a ha).1
  rw [hcoming]
  refine ⟨?_, fun x hx => ?_⟩
  · have horder : ((groupsOf accepted).insertInto columns).filter
          (fun x => x ∉ accepted.map (·.1.name)) =
        columns.filter (fun x => x ∉ accepted.map (·.1.name)) :=
      Groups.filter_insertInto fun x hx => by simpa using hnames.mem_iff.1 hx
    refine horder.trans (List.filter_eq_self.2 fun x hx => ?_)
    exact decide_eq_true fun hname => hnew x hname hx
  · have hperm := ((groupsOf accepted).perm_insertInto columns).trans (hnames.append_left columns)
    have hcount : ((groupsOf accepted).insertInto columns).count x = _ := hperm.count_eq x
    rw [hcount, List.count_append, List.count_eq_zero_of_not_mem (hnew x hx), Nat.zero_add]
    exact List.count_eq_one_of_mem hnodup hx

end Placed

section Relations

variable {aliases : Entries RelationSpec} {c : Columns}

theorem nodup_showRelation (place : Nat × String) (h : c.fields.Nodup) :
    (showRelation aliases c place).fields.Nodup := by
  unfold showRelation
  split
  · exact h
  · split
    · exact h
    · rename_i hnew
      exact nodup_insertAt (by simpa using hnew) h

theorem nodup_foldl_showRelation (places : List (Nat × String)) (h : c.fields.Nodup) :
    (places.foldl (showRelation aliases) c).fields.Nodup := by
  induction places generalizing c with
  | nil => exact h
  | cons place rest ih => exact ih (nodup_showRelation place h)

/-- Relations double no column. -/
theorem nodup_applyRelations {requested : List String} {relations : List RelationSpec}
    (h : c.fields.Nodup) : (applyRelations c requested relations).fields.Nodup := by
  rw [applyRelations_eq]
  exact nodup_foldl_showRelation _ (h.filter _)

end Relations

/-- Placing formulas loses and doubles nothing: the names of the formulas that come in stand among
the columns, each once, and without them the columns are left as they were.  So the columns of an
answer are without doubles if those that it starts from are. -/
theorem placeFormulas_loses_and_doubles_nothing :
    (∀ columns formulas result, placeFormulas columns formulas = .ok result →
      Joined columns ((comingIn columns [] formulas).map (·.name)) result) ∧
    ∀ r columns, resolveColumns r = .ok columns → r.requested.Nodup →
      (∀ fields ∈ r.schemaFields, fields.Nodup) → columns.ordered.Nodup := by
  refine ⟨fun _ _ _ h => joined_placeFormulas h, fun r columns h hrequested hschema => ?_⟩
  obtain ⟨ordered, hordered, h⟩ := bind_eq_ok.1 h
  obtain rfl := pure_eq_ok.1 h
  refine (joined_placeFormulas hordered).nodup (nodup_applyRelations ?_)
  show r.baseFields.Nodup
  unfold ColumnRequest.baseFields
  split
  · rename_i fields hfields
    exact hschema fields hfields
  · exact hrequested.filter _

/-- Formulas among doubled columns: at the start, at an index, under a taken name, twice under one
name, and beside a column that is not there. -/
def doubtfulFormulas : List FormulaSpec :=
  [⟨"start", none, [], "+", ⟨some (.name "first"), false⟩⟩,
    ⟨"id", none, [], "+", ⟨some (.name "last"), true⟩⟩,
    ⟨"second", none, [], "+", ⟨some (.name " 1 "), true⟩⟩,
    ⟨"lost", none, [], "+", ⟨some (.index 3), true⟩⟩,
    ⟨"start", none, ["tax"], "+", .beforeSource⟩,
    ⟨"before", none, ["id", "tax"], "+", ⟨some (.name ""), false⟩⟩]

/-- Three of the formulas come in, and the columns are doubled as before; without the double the
columns of an answer have none. -/
theorem placeFormulas_loses_and_doubles_nothing_doubtful :
    (comingIn ["id", "tax", "id"] [] doubtfulFormulas).map (·.name) =
      ["start", "second", "before"] ∧
    Joined ["id", "tax", "id"] ["start", "second", "before"]
      ["start", "id", "second", "before", "tax", "id"] ∧
    ∃ columns, resolveColumns ⟨["id", "tax"], [], doubtfulFormulas, none, []⟩ = .ok columns ∧
      columns.ordered = ["start", "id", "second", "before", "tax"] ∧ columns.ordered.Nodup := by
  have hcoming : (comingIn ["id", "tax", "id"] [] doubtfulFormulas).map (·.name) =
      ["start", "second", "before"] := by rfl
  have hplaced : placeFormulas ["id", "tax", "id"] doubtfulFormulas =
      .ok ["start", "id", "second", "before", "tax", "id"] := by rfl
  have hjoined := placeFormulas_loses_and_doubles_nothing.1 _ _ _ hplaced
  rw [hcoming] at hjoined
  exact ⟨hcoming, hjoined, _, rfl, rfl,
    placeFormulas_loses_and_doubles_nothing.2 ⟨["id", "tax"], [], doubtfulFormulas, none, []⟩ _
      rfl (by decide) (by simp)⟩

end Layout

end AdminGrid
