import AdminGrid.Layout.Resolve
import AdminGrid.Proofs.Cell.Range
import AdminGrid.Proofs.Layout.ShownFields
import Mathlib.Data.List.Find

/-!
# The formula of a column

A formula is looked up three times.  Placing takes the first formula of a name that has a place, and
none under the name of a column.  The heading is that of the first formula of the name, placed or
not, and the cell is computed from the last one, placed or not, even under the name of a column.

The main statement says when the three agree: exactly if no formula has the name of a column, and
each formula that is placed is the only one of its name.
-/

namespace AdminGrid

namespace Layout

/-- The fields and relation columns that formulas are placed among. -/
def ColumnRequest.related (r : ColumnRequest) : Columns :=
  applyRelations ⟨r.baseFields, r.labels, .none⟩ r.requested r.relations

/-- The headings with those of the formulas under some names. -/
def withHeadings (named : String → Bool) (labels : Entries String) (formulas : List FormulaSpec) :
    Entries String :=
  formulas.foldl (fun labels f =>
    if named f.name then labels.putNew f.name f.displayLabel else labels) labels

/-- Whether a name stands among columns and is no field. -/
def ColumnRequest.addsName (r : ColumnRequest) (ordered : List String) (name : String) : Bool :=
  ordered.contains name && !r.related.fields.contains name

/-- What comes of a request once its columns are placed. -/
def ColumnRequest.resolved (r : ColumnRequest) (ordered : List String) : ResolvedColumns where
  ordered := ordered
  labels := withHeadings (r.addsName ordered) r.related.labels r.formulas
  relations := r.related.relations
  formulas := (r.formulas.map (·.name)).filter (r.addsName ordered)

theorem resolveColumns_eq (r : ColumnRequest) :
    resolveColumns r = (placeFormulas r.related.fields r.formulas).map r.resolved := by
  have hlabels (ordered : List String) : r.formulas.foldl (fun labels f =>
      if ((r.formulas.map (·.name)).filter (r.addsName ordered)).contains f.name then
        labels.putNew f.name f.displayLabel else labels) r.related.labels =
      withHeadings (r.addsName ordered) r.related.labels r.formulas := by
    refine List.foldl_ext _ _ _ fun labels f hf => ?_
    have hname : ((r.formulas.map (·.name)).filter (r.addsName ordered)).contains f.name =
        r.addsName ordered f.name := by
      rw [Bool.eq_iff_iff, List.contains_iff_mem, List.mem_filter,
        and_iff_right (List.mem_map_of_mem hf)]
    rw [hname]
  cases hordered : placeFormulas r.related.fields r.formulas with
  | error e =>
      show (placeFormulas r.related.fields r.formulas >>= _) = _
      rw [hordered]
      rfl
  | ok ordered =>
      show (placeFormulas r.related.fields r.formulas >>= _) = _
      rw [hordered]
      show Except.ok (ResolvedColumns.mk ordered _ _ _) = Except.ok (r.resolved ordered)
      rw [ColumnRequest.resolved, ← hlabels]
      rfl

section Labels

variable {aliases : Entries RelationSpec} {c : Columns} {x : String}

theorem get?_labels_showRelation {place : Nat × String}
    (h : x ∉ (showRelation aliases c place).fields) :
    (showRelation aliases c place).labels.get? x = c.labels.get? x := by
  rw [mem_fields_showRelation_iff, not_or] at h
  unfold showRelation
  cases hget : aliases.get? place.2 with
  | none => rfl
  | some r =>
      dsimp only
      split
      · rfl
      · exact Entries.get?_put_of_ne _ _ fun hx => h.2 ⟨r, hget, hx⟩

theorem get?_labels_foldl_showRelation {places : List (Nat × String)}
    (h : x ∉ (places.foldl (showRelation aliases) c).fields) :
    (places.foldl (showRelation aliases) c).labels.get? x = c.labels.get? x := by
  induction places generalizing c with
  | nil => rfl
  | cons place rest ih =>
      rw [List.foldl_cons] at h ⊢
      rw [ih h]
      -- no field is lost again, so the name was no field after the first place either
      exact get?_labels_showRelation fun hx =>
        h (mem_fields_foldl_showRelation_iff.2 (Or.inl hx))

/-- Relations give headings to columns only. -/
theorem get?_labels_applyRelations {requested : List String} {relations : List RelationSpec}
    (h : x ∉ (applyRelations c requested relations).fields) :
    (applyRelations c requested relations).labels.get? x = c.labels.get? x := by
  rw [applyRelations_eq] at h ⊢
  exact get?_labels_foldl_showRelation h

end Labels

/-- A formula is the only one of its name exactly if its name occurs once. -/
theorem filter_name_eq_singleton_iff {formulas : List FormulaSpec} {f : FormulaSpec}
    (hf : f ∈ formulas) :
    formulas.filter (·.name == f.name) = [f] ↔ (formulas.map (·.name)).count f.name = 1 := by
  have hcount : (formulas.map (·.name)).count f.name =
      (formulas.filter (·.name == f.name)).length := by
    rw [List.count, List.countP_map, List.countP_eq_length_filter]
    rfl
  have hmem : f ∈ formulas.filter (·.name == f.name) :=
    List.mem_filter.2 ⟨hf, beq_self_eq_true f.name⟩
  rw [hcount]
  constructor
  · intro hfilter
    rw [hfilter]
    rfl
  · intro hlength
    obtain ⟨g, hg⟩ := List.length_eq_one_iff.1 hlength
    rw [hg, List.mem_singleton] at hmem
    rw [hg, hmem]

/-- Among the headings of some names a name finds that of its first formula. -/
theorem get?_headings {formulas : List FormulaSpec} {p : String → Bool} {name : String}
    (hname : p name = true) :
    Entries.get? name ((formulas.filter fun f => p f.name).map fun f => (f.name, f.displayLabel)) =
      (formulas.find? (·.name == name)).map (·.displayLabel) := by
  rw [Entries.get?_eq_find?, List.find?_map, List.find?_filter, Option.map_map]
  refine congrArg (Option.map _) (List.find?_congr fun f _ => ?_)
  by_cases hf : f.name = name
  · simp [hf, hname]
  · simp [hf]

section Resolved

variable {r : ColumnRequest} {columns : ResolvedColumns}

/-- What comes of the formulas of which some are placed. -/
structure Places (r : ColumnRequest) (columns : ResolvedColumns) (placed : List FormulaSpec) :
    Prop where
  declared : placed.Sublist r.formulas
  nodup : (placed.map (·.name)).Nodup
  fresh : ∀ f ∈ placed, f.name ∉ r.related.fields
  /-- The placed formulas come among the fields, each once. -/
  ordered : columns.ordered.Perm (r.related.fields ++ placed.map (·.name))
  /-- Their names are listed as often as they are declared. -/
  listed : columns.formulas = (r.formulas.map (·.name)).filter (placed.map (·.name)).contains
  /-- Their headings are those of the first formulas of their names. -/
  headed : ∀ f ∈ placed, columns.labels.get? f.name =
    (r.labels.get? f.name).or ((r.formulas.find? (·.name == f.name)).map (·.displayLabel))

theorem relations_of_resolveColumns (h : resolveColumns r = .ok columns) :
    columns.relations = r.related.relations := by
  obtain ⟨ordered, -, h⟩ := bind_eq_ok.1 h
  rw [← pure_eq_ok.1 h]
  rfl

/-- Among columns that are the fields and some new names, the new names are those that are added. -/
theorem ColumnRequest.addsName_eq {ordered names : List String}
    (hperm : ordered.Perm (r.related.fields ++ names)) (hnew : ∀ x ∈ names, x ∉ r.related.fields) :
    r.addsName ordered = names.contains := by
  funext name
  have hmem : name ∈ ordered ↔ name ∈ r.related.fields ∨ name ∈ names :=
    hperm.mem_iff.trans List.mem_append
  have hnot := hnew name
  rw [Bool.eq_iff_iff]
  simp only [addsName, Bool.and_eq_true, Bool.not_eq_true', List.contains_eq_mem,
    decide_eq_true_eq, decide_eq_false_iff_not]
  tauto

theorem resolveColumns_places (h : resolveColumns r = .ok columns) :
    ∃ accepted, acceptedFormulas r.related.fields r.formulas r.related.fields = .ok accepted ∧
      Places r columns (accepted.map (·.1)) := by
  rw [resolveColumns_eq] at h
  obtain ⟨ordered, hordered, rfl⟩ := map_eq_ok.1 h
  obtain ⟨accepted, haccepted, hperm⟩ := perm_placeFormulas hordered
  obtain ⟨hsub, hnodup, hall⟩ := acceptedFormulas_spec haccepted
  have hnames : accepted.map (·.1.name) = (accepted.map (·.1)).map (·.name) := by
    rw [List.map_map]
    rfl
  rw [hnames] at hperm hnodup
  have hnew : ∀ f ∈ accepted.map (·.1), f.name ∉ r.related.fields := by
    intro f hf
    obtain ⟨a, ha, rfl⟩ := List.mem_map.1 hf
    exact (hall a ha).1
  refine ⟨accepted, haccepted, ?_⟩
  generalize accepted.map (·.1) = placed at *
  have hadds : r.addsName ordered = (placed.map (·.name)).contains := by
    refine ColumnRequest.addsName_eq hperm fun x hx => ?_
    obtain ⟨f, hf, rfl⟩ := List.mem_map.1 hx
    exact hnew f hf
  refine ⟨hsub, hnodup, hnew, hperm, ?_, fun f hf => ?_⟩
  · rw [← hadds]
    rfl
  · have hlabel : r.related.labels.get? f.name = r.labels.get? f.name :=
      get?_labels_applyRelations (hnew f hf)
    have hname : (placed.map (·.name)).contains f.name = true :=
      List.contains_iff_mem.2 (List.mem_map_of_mem hf)
    show (withHeadings (r.addsName ordered) r.related.labels r.formulas).get? f.name = _
    rw [hadds, withHeadings, ← List.foldl_filter, Entries.get?_foldl_putNew, hlabel,
      get?_headings hname]

end Resolved

end Layout

namespace Cell

open Layout

/-- The same style with other formulas. -/
def RowStyle.withFormulas (style : RowStyle) (formulas : List FormulaSpec) : RowStyle :=
  { style with formulas }

section Formulas

variable {style : RowStyle} {row : Entries Value} {field : String} {f : FormulaSpec}

/-- A cell depends on the formula of its column and on no other. -/
theorem cellValue_withFormulas {formulas : List FormulaSpec}
    (h : style.formula? field = (style.withFormulas formulas).formula? field) :
    cellValue style row field = cellValue (style.withFormulas formulas) row field := by
  unfold cellValue
  rw [h]
  rfl

theorem formula?_withFormulas_nil : (style.withFormulas []).formula? field = none := rfl

theorem formula?_withFormulas_singleton : (style.withFormulas [f]).formula? f.name = some f :=
  List.find?_cons_of_pos (beq_self_eq_true f.name)

theorem formula?_eq_some (h : style.formula? field = some f) :
    f ∈ style.formulas ∧ f.name = field := by
  unfold RowStyle.formula? at h
  have hname := List.find?_some h
  exact ⟨List.mem_reverse.1 (List.mem_of_find?_eq_some h), eq_of_beq hname⟩

theorem formula?_isSome (h : f ∈ style.formulas) : (style.formula? f.name).isSome = true :=
  List.find?_isSome.2 ⟨f, List.mem_reverse.2 h, beq_self_eq_true f.name⟩

theorem formula?_of_filter (h : style.formulas.filter (·.name == f.name) = [f]) :
    style.formula? f.name = some f := by
  rw [RowStyle.formula?, ← List.head?_filter, List.filter_reverse, h]
  rfl

/-- A row that is shown holds the cells of its columns. -/
theorem cellValue_of_renderRow {tally : Tally} {view : RowView}
    (h : ((renderRow style row).run.run tally).1 = .ok view) (hfield : field ∈ style.ordered) :
    cellValue style row field = .ok (cellAt view.values field) := by
  obtain ⟨v, hv⟩ := exists_cellValue_iff.2 (exists_renderRow_iff.1 ⟨view, h⟩ field hfield)
  rw [yields_renderRow style row tally, map_eq_ok] at h
  obtain ⟨cells, hcells, rfl⟩ := h
  have hcell := get?_cellValues hcells hv (Or.inl hfield)
  simp only [hv, cellAt, hcell, Option.getD_some]

end Formulas

end Cell

open Cell Layout

/-- The columns of an answer and the cells of its rows are those of the formulas that are placed. -/
structure ShowsPlaced (r : ColumnRequest) (columns : ResolvedColumns) (style : RowStyle)
    (placed : List FormulaSpec) : Prop where
  /-- A cell is computed from no formula but one that is placed. -/
  computed : ∀ field ∈ columns.ordered, ∀ f, style.formula? field = some f → f ∈ placed
  /-- The column of a placed formula shows what this formula comes to. -/
  cells : ∀ row tally view, ((renderRow style row).run.run tally).1 = .ok view →
    ∀ f ∈ placed, cellValue (style.withFormulas [f]) row f.name = .ok (cellAt view.values f.name)
  /-- Any other column shows the cell of the row. -/
  own : ∀ row tally view, ((renderRow style row).run.run tally).1 = .ok view →
    ∀ field ∈ columns.ordered, field ∉ placed.map (·.name) →
      cellValue (style.withFormulas []) row field = .ok (cellAt view.values field)
  /-- The heading of a placed formula is its own, unless one was given. -/
  headed : ∀ f ∈ placed, columns.labels.get? f.name =
    (r.labels.get? f.name).or (some f.displayLabel)
  /-- Each placed formula is listed once. -/
  listed : columns.formulas.Perm (placed.map (·.name))

/-- No formula has the name of a column, and each that is placed is the only one of its name. -/
structure NamesApart (r : ColumnRequest) (placed : List FormulaSpec) : Prop where
  fresh : ∀ f ∈ r.formulas, f.name ∉ r.related.fields
  single : ∀ f ∈ placed, r.formulas.filter (·.name == f.name) = [f]

section Placed

variable {r : ColumnRequest} {columns : ResolvedColumns} {style : RowStyle}
  {placed : List FormulaSpec}

/-- The names of the placed formulas as often as they are declared are each of them once exactly if
each placed formula is the only one of its name. -/
theorem Layout.Places.perm_listed_iff (h : Places r columns placed) :
    columns.formulas.Perm (placed.map (·.name)) ↔
      ∀ f ∈ placed, r.formulas.filter (·.name == f.name) = [f] := by
  have hcount (f : FormulaSpec) (hf : f ∈ placed) :
      (r.formulas.filter (·.name == f.name) = [f] ↔
        columns.formulas.count f.name = (placed.map (·.name)).count f.name) := by
    have hname : f.name ∈ placed.map (·.name) := List.mem_map_of_mem hf
    rw [filter_name_eq_singleton_iff (h.declared.subset hf), h.listed,
      List.count_filter (List.contains_iff_mem.2 hname), List.count_eq_one_of_mem h.nodup hname]
  rw [List.perm_iff_count]
  constructor
  · exact fun hperm f hf => (hcount f hf).2 (hperm f.name)
  · intro hsingle name
    by_cases hname : name ∈ placed.map (·.name)
    · obtain ⟨f, hf, rfl⟩ := List.mem_map.1 hname
      exact (hcount f hf).1 (hsingle f hf)
    · rw [List.count_eq_zero_of_not_mem hname, h.listed, List.count_eq_zero_of_not_mem]
      exact fun hmem => hname (List.contains_iff_mem.1 (List.mem_filter.1 hmem).2)

theorem Layout.Places.mem_ordered_iff (h : Places r columns placed) {field : String} :
    field ∈ columns.ordered ↔ field ∈ r.related.fields ∨ field ∈ placed.map (·.name) := by
  rw [h.ordered.mem_iff, List.mem_append]

theorem ShowsPlaced.namesApart (hplaces : Places r columns placed)
    (hformulas : style.formulas = r.formulas) (h : ShowsPlaced r columns style placed) :
    NamesApart r placed := by
  refine ⟨fun f hf hfield => ?_, hplaces.perm_listed_iff.1 h.listed⟩
  -- the column of that name would be computed from a formula that is not placed
  obtain ⟨g, hg⟩ := Option.isSome_iff_exists.1 (formula?_isSome (hformulas.symm ▸ hf))
  refine hplaces.fresh g (h.computed f.name (hplaces.mem_ordered_iff.2 (Or.inl hfield)) g hg) ?_
  rwa [(formula?_eq_some hg).2]

section NamesApart

variable (hplaces : Places r columns placed) (hordered : style.ordered = columns.ordered)
  (hformulas : style.formulas = r.formulas) (hapart : NamesApart r placed)

include hformulas hapart

theorem NamesApart.formula?_of_mem {f : FormulaSpec} (hf : f ∈ placed) :
    style.formula? f.name = some f :=
  formula?_of_filter (hformulas ▸ hapart.single f hf)

include hplaces

theorem NamesApart.formula?_of_not_mem {field : String} (hfield : field ∈ columns.ordered)
    (hother : field ∉ placed.map (·.name)) : style.formula? field = none := by
  rw [Option.eq_none_iff_forall_ne_some]
  intro g hg
  obtain ⟨hdeclared, rfl⟩ := formula?_eq_some hg
  exact hapart.fresh g (hformulas ▸ hdeclared)
    ((hplaces.mem_ordered_iff.1 hfield).resolve_right hother)

theorem NamesApart.mem_of_formula? {field : String} (hfield : field ∈ columns.ordered)
    {f : FormulaSpec} (hf : style.formula? field = some f) : f ∈ placed := by
  by_contra hother
  have hname : field ∈ placed.map (·.name) := by
    by_contra hname
    rw [hapart.formula?_of_not_mem hplaces hformulas hfield hname] at hf
    cases hf
  obtain ⟨g, hg, rfl⟩ := List.mem_map.1 hname
  rw [hapart.formula?_of_mem hformulas hg, Option.some.injEq] at hf
  exact hother (hf ▸ hg)

include hordered

theorem NamesApart.showsPlaced : ShowsPlaced r columns style placed where
  computed _ hfield _ hf := hapart.mem_of_formula? hplaces hformulas hfield hf
  cells row _ view hview f hf := by
    have hfield : f.name ∈ style.ordered :=
      hordered ▸ hplaces.mem_ordered_iff.2 (Or.inr (List.mem_map_of_mem hf))
    have hformula : style.formula? f.name = (style.withFormulas [f]).formula? f.name := by
      rw [hapart.formula?_of_mem hformulas hf, formula?_withFormulas_singleton]
    exact (cellValue_withFormulas hformula).symm.trans (cellValue_of_renderRow hview hfield)
  own row _ view hview field hfield hother := by
    have hformula : style.formula? field = (style.withFormulas []).formula? field := by
      rw [hapart.formula?_of_not_mem hplaces hformulas hfield hother, formula?_withFormulas_nil]
    exact (cellValue_withFormulas hformula).symm.trans
      (cellValue_of_renderRow hview (hordered ▸ hfield))
  headed f hf := by
    rw [hplaces.headed f hf, ← List.head?_filter, hapart.single f hf]
    rfl
  listed := hplaces.perm_listed_iff.2 hapart.single

end NamesApart

end Placed

/-- The formulas of an answer are placed among its columns, each once, and the columns and cells are
those of the placed formulas exactly if no formula has the name of a column and each placed one is
the only one of its name. -/
theorem showsPlaced_iff_namesApart {r : ColumnRequest} {columns : ResolvedColumns}
    {style : RowStyle} (h : resolveColumns r = .ok columns)
    (hordered : style.ordered = columns.ordered) (hformulas : style.formulas = r.formulas) :
    ∃ accepted, acceptedFormulas r.related.fields r.formulas r.related.fields = .ok accepted ∧
      Places r columns (accepted.map (·.1)) ∧
      (ShowsPlaced r columns style (accepted.map (·.1)) ↔ NamesApart r (accepted.map (·.1))) := by
  obtain ⟨accepted, haccepted, hplaces⟩ := resolveColumns_places h
  exact ⟨accepted, haccepted, hplaces, fun hshows => hshows.namesApart hplaces hformulas,
    fun hapart => hapart.showsPlaced hplaces hordered hformulas⟩

section Doubled

/-- A formula at the start that adds an amount to itself, under a name and a label. -/
def doubledAs (name : String) (label : Option String) : FormulaSpec :=
  ⟨name, label, ["amount", "amount"], "+", ⟨some (.name "first"), false⟩⟩

/-- A formula after a column that is not there. -/
def lostAs (name : String) (label : Option String) : FormulaSpec :=
  ⟨name, label, ["amount", "amount"], "+", ⟨some (.name "none"), true⟩⟩

/-- A request for the id and the amount of a table and some formulas. -/
def amountsWith (formulas : List FormulaSpec) : ColumnRequest :=
  ⟨["id", "amount"], [], formulas, none, []⟩

/-- The style of a table with the named columns and some formulas alone. -/
def amountStyle (ordered : List String) (formulas : List FormulaSpec) : RowStyle :=
  ⟨.none, [], ordered, formulas, []⟩

/-- A row with an id and an amount. -/
def amountRow : Entries Value := [("id", .int 7), ("amount", .int 5)]

/-- A doubled amount under a name of its own is shown with its own heading. -/
theorem showsPlaced_iff_namesApart_doubled :
    ∃ columns, resolveColumns (amountsWith [doubledAs "double" none]) = .ok columns ∧
      columns.ordered = ["double", "id", "amount"] ∧
      ShowsPlaced (amountsWith [doubledAs "double" none]) columns
        (amountStyle ["double", "id", "amount"] [doubledAs "double" none])
        [doubledAs "double" none] := by
  have haccepted : acceptedFormulas ["id", "amount"] [doubledAs "double" none]
      ["id", "amount"] = .ok [(doubledAs "double" none, .first)] := by rfl
  have hformulas : (amountStyle ["double", "id", "amount"] [doubledAs "double" none]).formulas =
      (amountsWith [doubledAs "double" none]).formulas := rfl
  obtain ⟨accepted, hsome, -, hshows⟩ := showsPlaced_iff_namesApart rfl rfl hformulas
  obtain rfl := Except.ok.inj (haccepted.symm.trans hsome)
  exact ⟨_, rfl, rfl, hshows.2 ⟨by decide, by decide⟩⟩

/-- A formula that is not placed, as it has the name of a column, takes the cells of that column:
the id 7 is shown as 10.  A formula that is placed is shown under the label of another one that is
not, and its name is listed twice. -/
theorem not_showsPlaced_shadowing :
    (∃ columns view, resolveColumns (amountsWith [doubledAs "id" none]) = .ok columns ∧
      columns.ordered = ["id", "amount"] ∧ columns.formulas = [] ∧
      ((renderRow (amountStyle ["id", "amount"] [doubledAs "id" none]) amountRow).run.run
        ⟨0, 0⟩).1 = .ok view ∧
      cellAt view.values "id" = .int 10) ∧
    ∃ columns, resolveColumns
        (amountsWith [lostAs "t" (some "Lost"), doubledAs "t" (some "Kept")]) = .ok columns ∧
      columns.ordered = ["t", "id", "amount"] ∧ columns.formulas = ["t", "t"] ∧
      columns.labels.get? "t" = some "Lost" :=
  ⟨⟨_, _, rfl, rfl, rfl, rfl, rfl⟩, _, rfl, rfl, rfl, rfl⟩

end Doubled

end AdminGrid
