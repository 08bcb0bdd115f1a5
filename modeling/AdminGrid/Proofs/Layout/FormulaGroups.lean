import AdminGrid.Layout.Placement
import AdminGrid.Proofs.Outcome
import Mathlib.Data.List.Nodup

/-!
# Groups of formulas

A formula is sorted into its group by its placement and the original columns alone, whatever other
formulas there are.  So the groups are read off the list of accepted formulas, each with its spot,
and a formula is accepted at most once under a name.
-/

namespace AdminGrid.Layout

/-- Where a formula is put: at the start, at the end, or beside another column. -/
inductive Spot where
  | first
  | last (after : Bool)
  | beside (place : Beside) (after : Bool)
  deriving DecidableEq

/-- What a formula on one side of another column stands beside. -/
def Spot.place? (after : Bool) : Spot → Option Beside
  | .beside place side => if side = after then some place else none
  | _ => none

/-- A formula whose anchor is neither the start nor the end. -/
def isBeside (f : FormulaSpec) : Bool :=
  f.placement.anchor != some (.name "first") && f.placement.anchor != some (.name "last")

/-- The spot of a formula; none if it is left out. -/
def spotOf (columns : List String) (f : FormulaSpec) : Attempt (Option Spot) :=
  if isBeside f then
    match targetOf f with
    | none => .ok none
    | some target =>
        (besideOf columns f.name target).map fun place =>
          place.map fun b => .beside b f.placement.after
  else if f.placement.anchor = some (.name "first") then .ok (some .first)
  else .ok (some (.last f.placement.after))

/-- The groups with one more formula. -/
def Groups.put (g : Groups) (name : String) : Spot → Groups
  | .first => { g with first := g.first ++ [name] }
  | .last true => { g with lastAfter := g.lastAfter ++ [name] }
  | .last false => { g with lastBefore := g.lastBefore ++ [name] }
  | .beside place true => { g with after := g.after ++ [place] }
  | .beside place false => { g with before := g.before ++ [place] }

/-- The accepted formulas in the order of declaration, each with its spot.  A formula whose name is
taken, by a column or by an accepted formula, is left out. -/
def acceptedFormulas (columns : List String) :
    List FormulaSpec → (taken : List String) → Attempt (List (FormulaSpec × Spot))
  | [], _ => .ok []
  | f :: rest, taken =>
      if taken.contains f.name then acceptedFormulas columns rest taken
      else do
        match ← spotOf columns f with
        | some spot => return (f, spot) :: (← acceptedFormulas columns rest (f.name :: taken))
        | none => acceptedFormulas columns rest taken

theorem add?_eq (columns : List String) (g : Groups) (f : FormulaSpec) :
    g.add? columns f = (spotOf columns f).map (Option.map (g.put f.name)) := by
  unfold Groups.add? spotOf
  split
  · rename_i hfirst
    simp [isBeside, hfirst, Except.map, Groups.put]
  · rename_i hlast
    cases hafter : f.placement.after <;> simp [isBeside, hlast, Except.map, Groups.put]
  · rename_i hnotFirst hnotLast
    have hbeside : isBeside f = true := by
      rw [isBeside, Bool.and_eq_true, bne_iff_ne, bne_iff_ne]
      exact ⟨hnotFirst, hnotLast⟩
    rw [if_pos hbeside]
    cases targetOf f with
    | none => rfl
    | some target =>
        cases hplace : besideOf columns f.name target with
        | error e => simp [hplace, Except.map, bind, Except.bind]
        | ok place =>
            cases place with
            | none => simp [hplace, Except.map, bind, Except.bind, pure, Except.pure]
            | some b =>
                cases f.placement.after <;>
                  simp [hplace, Except.map, bind, Except.bind, pure, Except.pure, Groups.put]

/-- Sorting formulas into groups is accepting them and then sorting each into the group of its
spot. -/
theorem groupFormulas_eq (columns : List String) (formulas : List FormulaSpec)
    (taken : List String) (g : Groups) :
    groupFormulas columns formulas taken g =
      (acceptedFormulas columns formulas taken).map
        (List.foldl (fun g a => g.put a.1.name a.2) g) := by
  induction formulas generalizing taken g with
  | nil => rfl
  | cons f rest ih =>
      unfold groupFormulas acceptedFormulas
      by_cases htaken : taken.contains f.name = true
      · rw [if_pos htaken, if_pos htaken, ih]
      · rw [if_neg htaken, if_neg htaken, add?_eq]
        cases spotOf columns f with
        | error e => rfl
        | ok spot =>
            cases spot with
            | none => exact ih taken g
            | some spot =>
                change groupFormulas columns rest (f.name :: taken) (g.put f.name spot) = _
                rw [ih]
                cases acceptedFormulas columns rest (f.name :: taken) <;> rfl

/-- Formulas are gone through one after another: the names of the accepted ones are taken for those
behind them. -/
theorem acceptedFormulas_append (columns : List String) (earlier later : List FormulaSpec)
    (taken : List String) :
    acceptedFormulas columns (earlier ++ later) taken =
      acceptedFormulas columns earlier taken >>= fun accepted =>
        (acceptedFormulas columns later ((accepted.map (·.1.name)).reverse ++ taken)).map
          (accepted ++ ·) := by
  induction earlier generalizing taken with
  | nil =>
      show acceptedFormulas columns later taken = (acceptedFormulas columns later taken).map id
      rw [Except.map_id, id_eq]
  | cons f rest ih =>
      rw [List.cons_append, acceptedFormulas, acceptedFormulas]
      split
      · exact ih taken
      · rcases spotOf columns f with e | (_ | spot)
        · rfl
        · exact ih taken
        · show (do return (f, spot) :: (← acceptedFormulas columns (rest ++ later) _)) =
            (do return (f, spot) :: (← acceptedFormulas columns rest _)) >>= _
          rw [ih]
          cases acceptedFormulas columns rest (f.name :: taken) with
          | error e => rfl
          | ok accepted =>
              have htaken : (((f, spot) :: accepted).map (·.1.name)).reverse ++ taken =
                  (accepted.map (·.1.name)).reverse ++ f.name :: taken := by simp
              show _ = (acceptedFormulas columns later
                ((((f, spot) :: accepted).map (·.1.name)).reverse ++ taken)).map _
              rw [htaken]
              show (do return (f, spot) :: (← (acceptedFormulas columns later _).map _)) = _
              cases acceptedFormulas columns later
                ((accepted.map (·.1.name)).reverse ++ f.name :: taken) <;> rfl

section Accepted

variable {columns taken : List String} {formulas : List FormulaSpec}
  {accepted : List (FormulaSpec × Spot)}

/-- Every accepted formula is a declared one with its own spot and a name that was free. -/
theorem acceptedFormulas_spec (h : acceptedFormulas columns formulas taken = .ok accepted) :
    (accepted.map (·.1)).Sublist formulas ∧ (accepted.map (·.1.name)).Nodup ∧
      ∀ a ∈ accepted, a.1.name ∉ taken ∧ spotOf columns a.1 = .ok (some a.2) := by
  induction formulas generalizing taken accepted with
  | nil =>
      cases h
      simp
  | cons f rest ih =>
      unfold acceptedFormulas at h
      by_cases htaken : taken.contains f.name = true
      · rw [if_pos htaken] at h
        obtain ⟨hsub, hrest⟩ := ih h
        exact ⟨hsub.cons f, hrest⟩
      rw [if_neg htaken] at h
      cases hspot : spotOf columns f with
      | error e =>
          rw [hspot] at h
          cases h
      | ok spot =>
          rw [hspot] at h
          cases spot with
          | none =>
              obtain ⟨hsub, hrest⟩ := ih h
              exact ⟨hsub.cons f, hrest⟩
          | some spot =>
              cases hothers : acceptedFormulas columns rest (f.name :: taken) with
              | error e => simp [hothers, bind, Except.bind] at h
              | ok others =>
                  simp only [hothers, bind, Except.bind, pure, Except.pure, Except.ok.injEq] at h
                  subst h
                  obtain ⟨hsub, hnodup, hall⟩ := ih hothers
                  -- the name of the head is taken for the rest, so that it cannot come again
                  refine ⟨hsub.cons_cons f, ?_, ?_⟩
                  · rw [List.map_cons, List.nodup_cons]
                    refine ⟨fun hmem => ?_, hnodup⟩
                    obtain ⟨a, ha, heq⟩ := List.mem_map.1 hmem
                    exact (hall a ha).1 (heq ▸ List.mem_cons_self)
                  · intro a ha
                    rcases List.mem_cons.1 ha with rfl | ha
                    · exact ⟨by simpa using htaken, hspot⟩
                    · exact ⟨fun hmem => (hall a ha).1 (List.mem_cons_of_mem _ hmem), (hall a ha).2⟩

/-- The names of the accepted formulas in some spots. -/
def namesAt (p : Spot → Bool) (accepted : List (FormulaSpec × Spot)) : List String :=
  (accepted.filter fun a => p a.2).map (·.1.name)

/-- What the accepted formulas on one side of another column stand beside. -/
def placesAt (after : Bool) (accepted : List (FormulaSpec × Spot)) : List Beside :=
  accepted.filterMap fun a => a.2.place? after

theorem foldl_put (accepted : List (FormulaSpec × Spot)) (g : Groups) :
    accepted.foldl (fun g a => g.put a.1.name a.2) g =
      { first := g.first ++ namesAt (· == .first) accepted
        lastAfter := g.lastAfter ++ namesAt (· == .last true) accepted
        lastBefore := g.lastBefore ++ namesAt (· == .last false) accepted
        before := g.before ++ placesAt false accepted
        after := g.after ++ placesAt true accepted } := by
  induction accepted generalizing g with
  | nil => simp [namesAt, placesAt]
  | cons a rest ih =>
      obtain ⟨f, spot⟩ := a
      rw [List.foldl_cons, ih]
      rcases spot with _ | (_ | _) | ⟨place, _ | _⟩ <;>
        simp [Groups.put, namesAt, placesAt, Spot.place?]

theorem mem_namesAt {p : Spot → Bool} {x : String} :
    x ∈ namesAt p accepted ↔ ∃ a ∈ accepted, p a.2 = true ∧ a.1.name = x := by
  simp [namesAt, and_assoc]

end Accepted

section Beside

variable {columns : List String} {f : FormulaSpec} {target : Anchor} {place : Beside}
  {after : Bool}

/-- A target that is no column is looked up by its index alone. -/
theorem besideOf_of_not_name {name : String} (h : ¬ ∃ x ∈ columns, target = .name x) :
    besideOf columns name target = (targetIndex? target).map fun i? =>
      (i?.filter fun i : Int => 0 ≤ i && i < columns.length).map fun i =>
        ⟨name, none, i.toNat⟩ := by
  have hplace (i : Int) : (if 0 ≤ i && i < columns.length then return some ⟨name, none, i.toNat⟩
      else return none : Attempt (Option Beside)) =
        (Except.ok (some i)).map fun i? =>
          (i?.filter fun i : Int => 0 ≤ i && i < columns.length).map fun i =>
            ⟨name, none, i.toNat⟩ := by
    rw [Except.map, Option.filter_some]
    split <;> rfl
  cases target with
  | index i =>
      rw [besideOf]
      rcases targetIndex? (.index i) with e | (_ | j)
      · rfl
      · rfl
      · exact hplace j
  | name s =>
      have hs : columns.contains s = false := by
        simpa using fun hmem => h ⟨s, hmem, rfl⟩
      rw [besideOf, hs]
      rcases targetIndex? (.name s) with e | (_ | j)
      · rfl
      · rfl
      · exact hplace j

/-- A formula beside an index remembers no column. -/
theorem besideOf_eq_of_not_mem {name : String} (hname : ∀ x, target = .name x → x ∉ columns)
    (h : besideOf columns name target = .ok (some place)) :
    place.name = name ∧ place.target = none := by
  rw [besideOf_of_not_name fun ⟨x, hx, htarget⟩ => hname x htarget hx] at h
  obtain ⟨i?, -, hplace⟩ := map_eq_ok.1 h
  obtain ⟨i, -, rfl⟩ := Option.map_eq_some_iff.1 hplace
  exact ⟨rfl, rfl⟩

theorem besideOf_name_of_mem {name x : String} (hx : x ∈ columns) :
    besideOf columns name (.name x) = .ok (some ⟨name, some x, columns.idxOf x⟩) := by
  simp [besideOf, hx]

/-- A formula beside a column remembers its own name, and a column exactly if it is there. -/
theorem besideOf_spec {name : String} (h : besideOf columns name target = .ok (some place)) :
    place.name = name ∧ ∀ x, place.target = some x ↔ target = .name x ∧ x ∈ columns := by
  by_cases hname : ∃ x, target = .name x ∧ x ∈ columns
  · obtain ⟨x, rfl, hx⟩ := hname
    rw [besideOf_name_of_mem hx] at h
    obtain rfl := Option.some.inj (Except.ok.inj h)
    refine ⟨rfl, fun y => ⟨fun hy => ?_, fun hy => ?_⟩⟩
    · cases hy
      exact ⟨rfl, hx⟩
    · cases hy.1
      rfl
  · obtain ⟨hplace, htarget⟩ :=
      besideOf_eq_of_not_mem (fun x hx hmem => hname ⟨x, hx, hmem⟩) h
    refine ⟨hplace, fun x => ?_⟩
    rw [htarget]
    constructor
    · intro hx
      cases hx
    · intro hx
      exact absurd ⟨x, hx⟩ hname

/-- The spot of a formula says what its placement says. -/
theorem spotOf_spec {spot : Spot} (h : spotOf columns f = .ok (some spot)) :
    (f.placement.anchor = some (.name "first") → spot = .first) ∧
      (f.placement.anchor = some (.name "last") → spot = .last f.placement.after) ∧
      (isBeside f = true → ∃ place, spot = .beside place f.placement.after ∧ place.name = f.name ∧
        ∀ x, place.target = some x ↔ targetOf f = some (.name x) ∧ x ∈ columns) := by
  unfold spotOf at h
  by_cases hbeside : isBeside f = true
  · rw [if_pos hbeside] at h
    have hanchor := hbeside
    rw [isBeside, Bool.and_eq_true, bne_iff_ne, bne_iff_ne] at hanchor
    refine ⟨fun h => absurd h hanchor.1, fun h => absurd h hanchor.2, fun _ => ?_⟩
    cases htarget : targetOf f with
    | none => simp [htarget] at h
    | some target =>
        cases hplace : besideOf columns f.name target with
        | error e => simp [htarget, hplace, Except.map] at h
        | ok place =>
            cases place with
            | none => simp [htarget, hplace, Except.map] at h
            | some place =>
                simp only [htarget, hplace, Except.map, Option.map_some, Except.ok.injEq,
                  Option.some.injEq] at h
                obtain ⟨hname, hspec⟩ := besideOf_spec hplace
                refine ⟨place, h.symm, hname, fun x => ?_⟩
                rw [hspec, Option.some.injEq]
  · rw [if_neg hbeside] at h
    refine ⟨fun hfirst => ?_, fun hlast => ?_, fun h => absurd h hbeside⟩
    · rw [if_pos hfirst] at h
      exact (Option.some.inj (Except.ok.inj h)).symm
    · rw [hlast, if_neg (by simp)] at h
      exact (Option.some.inj (Except.ok.inj h)).symm

/-- A formula stands at the start, at the end or beside another column. -/
theorem anchor_of_not_beside (h : ¬ isBeside f = true) :
    f.placement.anchor = some (.name "first") ∨ f.placement.anchor = some (.name "last") := by
  by_contra hno
  rw [not_or] at hno
  exact h (by rw [isBeside, Bool.and_eq_true, bne_iff_ne, bne_iff_ne]; exact hno)

theorem spotOf_eq_first_iff {spot : Spot} (h : spotOf columns f = .ok (some spot)) :
    spot = .first ↔ f.placement.anchor = some (.name "first") := by
  obtain ⟨hfirst, hlast, hbeside⟩ := spotOf_spec h
  refine ⟨fun hspot => ?_, hfirst⟩
  by_cases hf : isBeside f = true
  · obtain ⟨place, hplace, -⟩ := hbeside hf
    rw [hspot] at hplace
    cases hplace
  · refine (anchor_of_not_beside hf).resolve_right fun ha => ?_
    have hplace := hlast ha
    rw [hspot] at hplace
    cases hplace

/-- A formula stands in a spot beside a column exactly if its placement says so. -/
theorem spotOf_place?_isSome {spot : Spot} (h : spotOf columns f = .ok (some spot)) :
    (spot.place? after).isSome = true ↔ isBeside f = true ∧ f.placement.after = after := by
  obtain ⟨hfirst, hlast, hbeside⟩ := spotOf_spec h
  by_cases hf : isBeside f = true
  · obtain ⟨place, rfl, -⟩ := hbeside hf
    simp [Spot.place?, hf]
  · rcases anchor_of_not_beside hf with ha | ha
    · simp [hfirst ha, Spot.place?, hf]
    · simp [hlast ha, Spot.place?, hf]

end Beside

end AdminGrid.Layout
