import AdminGrid.Proofs.Cell.PlacedFormulas
import AdminGrid.Proofs.Layout.ComingIn
import AdminGrid.Proofs.Number.Reading

/-!
# Formulas that are left out

A formula whose target is neither a column nor an index among the columns is left out, and the
columns of an answer are those without it: where the formula shares its name with one that comes in,
all but the heading of that column and the list of names.

There is an answer unless the target of a formula that is looked at cannot be read: it is a text of
digits of which one has no place value, or it has too many digits.  A formula whose name is taken is
not looked at, and a column is found by its name whatever its name is.
-/

namespace AdminGrid

/-- A target of digits that denote no index. -/
def Anchor.Illegible : Anchor → Prop
  | .index i => Reading.maxDigits < (Nat.toDigits 10 i.natAbs).length
  | .name s =>
      Text.strip s ≠ "" ∧ (∀ c ∈ (Text.strip s).toList, Text.isDigit c = true) ∧
        ((∃ c ∈ (Text.strip s).toList, Text.isDecimal c = false) ∨
          Reading.maxDigits < (Text.strip s).toList.length)

namespace Layout

/-- A target that is no column and cannot be read. -/
def Unreadable (columns : List String) (f : FormulaSpec) : Prop :=
  ∃ target ∈ targetOf f, target.Illegible ∧ ¬ ∃ x ∈ columns, target = .name x

/-- A formula whose name is neither that of a column nor that of an earlier formula. -/
def NameFree (columns : List String) (earlier : List FormulaSpec) (f : FormulaSpec) : Prop :=
  f.name ∉ columns ∧ f.name ∉ earlier.map (·.name)

instance (columns : List String) (earlier : List FormulaSpec) (f : FormulaSpec) :
    Decidable (NameFree columns earlier f) :=
  inferInstanceAs (Decidable (_ ∧ _))

theorem comesIn_iff {columns : List String} {earlier : List FormulaSpec} {f : FormulaSpec} :
    ComesIn columns earlier f ↔ NameFree columns earlier f ∧ HasSpot columns f :=
  and_assoc.symm

section Readable

variable {columns : List String} {f : FormulaSpec} {target : Anchor}

theorem exists_targetIndex?_iff : (∃ i?, targetIndex? target = .ok i?) ↔ ¬ target.Illegible := by
  cases target with
  | index i =>
      rw [targetIndex?, Anchor.Illegible]
      split
      · rename_i hlong
        refine iff_of_false ?_ (not_not_intro hlong)
        rintro ⟨i?, h⟩
        cases h
      · rename_i hshort
        exact iff_of_true ⟨_, rfl⟩ hshort
  | name s =>
      rw [Anchor.Illegible, targetIndex?]
      by_cases hdigits : Text.strip s ≠ "" ∧ ∀ c ∈ (Text.strip s).toList, Text.isDigit c = true
      · have hread : (Text.strip s = "" || !(Text.strip s).toList.all Text.isDigit) = false := by
          simpa using hdigits
        have hnone := Reading.int?_eq_none_iff_of_digits hdigits.1 hdigits.2
        simp only [List.all_eq_false, Bool.not_eq_true] at hnone
        rw [if_neg (by simpa using hread), ← and_assoc, and_iff_right hdigits, ← hnone]
        cases Reading.int? (Text.strip s) <;> simp
      · have hskip : (Text.strip s = "" || !(Text.strip s).toList.all Text.isDigit) = true := by
          by_contra hread
          exact hdigits (by simpa using hread)
        rw [if_pos hskip]
        exact iff_of_true ⟨none, rfl⟩ fun h => hdigits ⟨h.1, h.2.1⟩

theorem exists_besideOf_iff {name : String} :
    (∃ place?, besideOf columns name target = .ok place?) ↔
      ¬ (target.Illegible ∧ ¬ ∃ x ∈ columns, target = .name x) := by
  by_cases hname : ∃ x ∈ columns, target = .name x
  · obtain ⟨x, hx, rfl⟩ := hname
    exact iff_of_true ⟨_, besideOf_name_of_mem hx⟩ fun h => h.2 ⟨x, hx, rfl⟩
  · rw [besideOf_of_not_name hname, and_iff_left hname, ← exists_targetIndex?_iff]
    exact exists_map_iff

theorem exists_spotOf_iff : (∃ spot?, spotOf columns f = .ok spot?) ↔ ¬ Unreadable columns f := by
  unfold spotOf Unreadable
  by_cases hbeside : isBeside f = true
  · rw [if_pos hbeside]
    cases targetOf f with
    | none => simp
    | some target =>
        simp only [Option.mem_some_iff, exists_eq_left']
        rw [← exists_besideOf_iff]
        exact exists_map_iff
  · -- the words for the start and the end are no digits
    have hword : ∀ target ∈ targetOf f, ¬ target.Illegible := by
      intro target htarget
      rw [← exists_targetIndex?_iff]
      rcases anchor_of_not_beside hbeside with hanchor | hanchor <;>
      · have hself : targetOf f = f.placement.anchor := by simp [targetOf, hanchor]
        rw [hself, hanchor, Option.mem_some_iff] at htarget
        exact htarget ▸ ⟨none, rfl⟩
    rw [if_neg hbeside]
    refine iff_of_true ?_ ?_
    · split <;> exact ⟨_, rfl⟩
    · rintro ⟨target, htarget, hdigits, -⟩
      exact hword target htarget hdigits

/-- The formulas are gone through to the end exactly if the target of each formula whose name is
free can be read. -/
theorem exists_acceptedFormulas_iff {formulas earlier : List FormulaSpec} {taken : List String}
    (htaken : ∀ x, x ∈ taken ↔ x ∈ columns ∨ x ∈ earlier.map (·.name)) :
    (∃ accepted, acceptedFormulas columns formulas taken = .ok accepted) ↔
      ∀ before f after, formulas = before ++ f :: after →
        NameFree columns (comingIn columns earlier before) f → ¬ Unreadable columns f := by
  induction formulas generalizing earlier taken with
  | nil => exact iff_of_true ⟨[], rfl⟩ fun before f after h => by simp at h
  | cons f rest ih =>
      have hfree : f.name ∉ taken ↔ NameFree columns earlier f := by
        rw [htaken, not_or, NameFree]
      rw [forall_split_cons]
      show _ ↔ (NameFree columns earlier f → ¬ Unreadable columns f) ∧ ∀ before g after,
        rest = before ++ g :: after →
          NameFree columns (comingIn columns
            (if ComesIn columns earlier f then earlier ++ [f] else earlier) before) g →
          ¬ Unreadable columns g
      unfold acceptedFormulas
      by_cases hmem : f.name ∈ taken
      · have hnotFree : ¬ NameFree columns earlier f := fun h => hfree.2 h hmem
        rw [if_pos (by simpa using hmem), if_neg fun h => hnotFree (comesIn_iff.1 h).1, ih htaken]
        exact ⟨fun h => ⟨fun h' => absurd h' hnotFree, h⟩, And.right⟩
      · rw [if_neg (by simpa using hmem), ← exists_spotOf_iff, imp_iff_right (hfree.1 hmem)]
        cases hspot : spotOf columns f with
        | error e =>
            refine iff_of_false ?_ ?_
            · rintro ⟨accepted, h⟩
              cases h
            · rintro ⟨⟨spot?, h⟩, -⟩
              cases h
        | ok spot? =>
            rw [and_iff_right ⟨spot?, rfl⟩]
            have hin : ComesIn columns earlier f ↔ spot?.isSome = true := by
              rw [comesIn_iff, and_iff_right (hfree.1 hmem), spotOf_isSome_iff hspot]
            cases spot? with
            | none =>
                rw [if_neg (by simpa using hin)]
                exact ih htaken
            | some spot =>
                rw [if_pos (hin.2 rfl), ← ih (mem_taken_cons_iff htaken)]
                exact exists_bind_iff fun _ => ⟨_, rfl⟩

end Readable

section LeftOut

variable {columns : List String} {f : FormulaSpec} {earlier later : List FormulaSpec}

/-- A formula without a spot is passed over, whether its name is taken or not. -/
theorem acceptedFormulas_of_leftOut {taken : List String} {accepted : List (FormulaSpec × Spot)}
    (hout : ¬ HasSpot columns f)
    (h : acceptedFormulas columns (earlier ++ f :: later) taken = .ok accepted) :
    acceptedFormulas columns (earlier ++ later) taken = .ok accepted := by
  rw [acceptedFormulas_append] at h ⊢
  obtain ⟨before, hbefore, h⟩ := bind_eq_ok.1 h
  obtain ⟨behind, hbehind, haccepted⟩ := map_eq_ok.1 h
  refine bind_eq_ok.2 ⟨before, hbefore, map_eq_ok.2 ⟨behind, ?_, haccepted⟩⟩
  rw [acceptedFormulas] at hbehind
  split at hbehind
  · exact hbehind
  · obtain ⟨spot?, hspot, hbehind⟩ := bind_eq_ok.1 hbehind
    rw [← spotOf_isSome_iff hspot] at hout
    cases spot? with
    | none => exact hbehind
    | some spot => exact absurd rfl hout

theorem placeFormulas_of_leftOut {ordered : List String} (hout : ¬ HasSpot columns f)
    (h : placeFormulas columns (earlier ++ f :: later) = .ok ordered) :
    placeFormulas columns (earlier ++ later) = .ok ordered := by
  rw [placeFormulas_eq] at h ⊢
  obtain ⟨accepted, haccepted, hordered⟩ := map_eq_ok.1 h
  exact map_eq_ok.2 ⟨accepted, acceptedFormulas_of_leftOut hout haccepted, hordered⟩

section Headings

variable {named : String → Bool} {labels : Entries String}

/-- A formula gives a heading to the column of its own name alone. -/
theorem get?_withHeadings_of_ne {x : String} (hx : x ≠ f.name) :
    (withHeadings named labels (earlier ++ f :: later)).get? x =
      (withHeadings named labels (earlier ++ later)).get? x := by
  simp only [withHeadings, ← List.foldl_filter, Entries.get?_foldl_putNew, List.filter_append,
    List.filter_cons, List.map_append, Entries.get?_append]
  split
  · rw [List.map_cons, Entries.get?_cons, if_neg hx.symm]
  · rfl

theorem withHeadings_of_not_named (h : named f.name = false) :
    withHeadings named labels (earlier ++ f :: later) =
      withHeadings named labels (earlier ++ later) := by
  simp [withHeadings, h]

end Headings

/-- Columns that are the same but for what belongs to a name. -/
structure SameBut (name : String) (columns rest : ResolvedColumns) : Prop where
  ordered : columns.ordered = rest.ordered
  relations : columns.relations = rest.relations
  labels : ∀ x, x ≠ name → columns.labels.get? x = rest.labels.get? x
  formulas : columns.formulas.filter (· != name) = rest.formulas.filter (· != name)
  /-- They are all the same unless a formula column has the name. -/
  all : columns = rest ↔ name ∉ rest.formulas

theorem ColumnRequest.sameBut_resolved {r : ColumnRequest}
    (hr : r.formulas = earlier ++ f :: later) {ordered : List String}
    (hordered : f.name ∈ ordered →
      f.name ∈ r.related.fields ∨ f.name ∈ (earlier ++ later).map (·.name)) :
    SameBut f.name (r.resolved ordered)
      ({ r with formulas := earlier ++ later }.resolved ordered) := by
  have hresolved : r.resolved ordered =
      ⟨ordered, withHeadings (r.addsName ordered) r.related.labels (earlier ++ f :: later),
        r.related.relations,
        ((earlier ++ f :: later).map (·.name)).filter (r.addsName ordered)⟩ := by
    rw [← hr]
    rfl
  have hrest : { r with formulas := earlier ++ later }.resolved ordered =
      ⟨ordered, withHeadings (r.addsName ordered) r.related.labels (earlier ++ later),
        r.related.relations, ((earlier ++ later).map (·.name)).filter (r.addsName ordered)⟩ := rfl
  have hlisted : f.name ∈ ((earlier ++ later).map (·.name)).filter (r.addsName ordered) ↔
      r.addsName ordered f.name = true := by
    rw [List.mem_filter, and_iff_right_iff_imp, addsName, Bool.and_eq_true, List.contains_iff_mem]
    rintro ⟨hmem, hfields⟩
    exact (hordered hmem).resolve_left (by simpa using hfields)
  rw [hresolved, hrest]
  constructor
  case ordered => rfl
  case relations => rfl
  case labels => exact fun x hx => get?_withHeadings_of_ne hx
  case formulas => simp [List.filter_filter]
  case all =>
    rw [hlisted, Bool.not_eq_true]
    constructor
    · -- a name that is listed without the formula is listed once more with it
      intro hall
      by_contra hadds
      rw [Bool.not_eq_false] at hadds
      simp [hadds] at hall
    · intro hadds
      rw [withHeadings_of_not_named hadds]
      simp [hadds]

end LeftOut

/-- The columns of an answer can be found exactly if the target of each formula whose name is free
can be read.  They are then the columns without any one formula that has no spot, but for what
belongs to the name of the formula where one of this name comes in. -/
theorem resolveColumns_leaves_out (r : ColumnRequest) :
    ((∃ columns, resolveColumns r = .ok columns) ↔
      ∀ earlier f later, r.formulas = earlier ++ f :: later →
        NameFree r.related.fields (comingIn r.related.fields [] earlier) f →
          ¬ Unreadable r.related.fields f) ∧
    ∀ earlier f later columns, r.formulas = earlier ++ f :: later →
      ¬ HasSpot r.related.fields f → resolveColumns r = .ok columns →
        ∃ rest, resolveColumns { r with formulas := earlier ++ later } = .ok rest ∧
          SameBut f.name columns rest := by
  constructor
  · have hsome : (∃ columns, resolveColumns r = .ok columns) ↔
        ∃ accepted, acceptedFormulas r.related.fields r.formulas r.related.fields =
          .ok accepted := by
      rw [resolveColumns_eq, placeFormulas_eq, exists_map_iff, exists_map_iff]
    exact hsome.trans (exists_acceptedFormulas_iff (by simp))
  · intro earlier f later columns hr hout h
    rw [resolveColumns_eq] at h
    obtain ⟨ordered, hordered, rfl⟩ := map_eq_ok.1 h
    rw [hr] at hordered
    have hrest := placeFormulas_of_leftOut hout hordered
    have hnames : f.name ∈ ordered →
        f.name ∈ r.related.fields ∨ f.name ∈ (earlier ++ later).map (·.name) := by
      obtain ⟨accepted, haccepted, hperm⟩ := perm_placeFormulas hrest
      intro hmem
      refine (List.mem_append.1 (hperm.mem_iff.1 hmem)).imp_right fun hname => ?_
      obtain ⟨a, ha, hname⟩ := List.mem_map.1 hname
      have hdeclared := (acceptedFormulas_spec haccepted).1.subset (List.mem_map_of_mem ha)
      exact List.mem_map.2 ⟨a.1, hdeclared, hname⟩
    refine ⟨_, ?_, r.sameBut_resolved hr hnames⟩
    rw [resolveColumns_eq]
    exact map_eq_ok.2 ⟨ordered, hrest, rfl⟩

section Square

/-- A formula before the target of the given name. -/
def squareAt (anchor : String) : FormulaSpec :=
  ⟨"square", none, ["amount", "amount"], "*", ⟨some (.name anchor), false⟩⟩

/-- A formula at the index two of a table with two columns can be read and is left out, and the
columns are those without it. -/
theorem resolveColumns_leaves_out_square :
    ¬ Unreadable ["id", "amount"] (squareAt "2") ∧
    ∃ columns rest,
      resolveColumns (amountsWith [doubledAs "double" none, squareAt "2"]) = .ok columns ∧
      resolveColumns (amountsWith [doubledAs "double" none]) = .ok rest ∧
      columns.ordered = ["double", "id", "amount"] ∧ columns = rest := by
  have h := resolveColumns_leaves_out (amountsWith [doubledAs "double" none, squareAt "2"])
  have hout : ¬ HasSpot ["id", "amount"] (squareAt "2") := by decide
  refine ⟨h.1.1 ⟨_, rfl⟩ [doubledAs "double" none] (squareAt "2") [] rfl (by decide), ?_⟩
  obtain ⟨rest, hrest, hsame⟩ := h.2 [doubledAs "double" none] (squareAt "2") [] _ rfl hout rfl
  refine ⟨_, rest, rfl, hrest, rfl, hsame.all.2 ?_⟩
  obtain rfl := Except.ok.inj hrest
  decide

/-- A superscript two is a digit, but no index: no columns are found.  A formula that is left out
gives its heading to a column of the same name, which is then listed twice. -/
theorem not_resolveColumns_leaves_out :
    resolveColumns (amountsWith [squareAt "²"]) = .error .badValue ∧
    ∃ columns rest,
      resolveColumns (amountsWith [lostAs "t" (some "Lost"), doubledAs "t" (some "Kept")]) =
        .ok columns ∧
      resolveColumns (amountsWith [doubledAs "t" (some "Kept")]) = .ok rest ∧
      columns.formulas = ["t", "t"] ∧ rest.formulas = ["t"] ∧
      columns.labels.get? "t" = some "Lost" ∧ rest.labels.get? "t" = some "Kept" :=
  ⟨rfl, _, _, rfl, rfl, rfl, rfl, rfl, rfl⟩

end Square

end Layout

end AdminGrid
