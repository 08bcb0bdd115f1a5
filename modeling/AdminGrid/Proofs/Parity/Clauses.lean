import AdminGrid.Direct.Query
import AdminGrid.Proofs.Store.JoinOrder
import AdminGrid.Staged.Query

/-!
# Clauses on both sides

A value that a request can give is written by its type as what it would be bound as anyway.  So the
two compilations make the same conditions of a filter, except where it asks whether a cell equals
null, and except for an order of null or of truth values, which a staged compilation refuses.
-/

namespace AdminGrid

/-- Whether a value holds no other values and is given to a statement as it is. -/
def Value.isScalar : Value → Bool
  | .null | .bool _ | .int _ | .float _ | .text _ | .bytes _ | .date _ => true
  | _ => false

/-- Whether an operator asks for an order. -/
def FilterOperator.isOrder : FilterOperator → Bool
  | .greaterThan | .lessThan | .greaterThanOrEqual | .lessThanOrEqual => true
  | _ => false

/-- Whether an operator asks for equality or for its opposite. -/
def FilterOperator.isEquality : FilterOperator → Bool
  | .equals | .notEqual => true
  | _ => false

/-- Whether there is no order of a value: it is null or a truth value. -/
def Value.isUnordered : Value → Bool
  | .null | .bool _ => true
  | _ => false

/-- Whether a filter asks for an order of null or of a truth value. -/
def FilterSpec.ordersUnordered (f : FilterSpec) : Bool := f.operator.isOrder && f.value.isUnordered

/-- Whether a filter asks whether a cell equals null. -/
def FilterSpec.asksNull (f : FilterSpec) : Bool :=
  f.operator.isEquality && Staged.isNullValue f.value

namespace Store

/-- A condition of a single pass and one of a staged compilation that are bound alike, once the
values of the latter are written. -/
def Binds (R : Condition Stored → Condition Stored → Prop) (q : Condition Value)
    (p : Condition Parameter) : Prop :=
  ∃ w, p.traverse Parameter.write = .ok w ∧ Alike R (q.traverse Store.bind) (w.traverse Store.bind)

theorem Binds.mono {R S : Condition Stored → Condition Stored → Prop} {q : Condition Value}
    {p : Condition Parameter} (h : Binds R q p) (hRS : ∀ s t, R s t → S s t) : Binds S q p := by
  obtain ⟨w, hw, halike⟩ := h
  refine ⟨w, hw, ?_⟩
  have hmap := Alike.map (f := id) (g := id) halike hRS
  rwa [Except.map_id, id, id] at hmap

theorem Binds.either {q q' : Condition Value} {p p' : Condition Parameter} (h : Binds Eq q p)
    (h' : Binds Eq q' p') : Binds Eq (.either q q') (.either p p') := by
  obtain ⟨w, hw, halike⟩ := h
  obtain ⟨w', hw', halike'⟩ := h'
  refine ⟨.either w w', ?_, ?_⟩
  · rw [Condition.traverse, hw, hw']
    rfl
  · refine halike.bind fun s t _ _ hst => halike'.bind fun s' t' _ _ hst' => ?_
    rw [hst, hst']
    exact Alike.refl _

theorem binds_either_foldl {qs : List (Condition Value)} {ps : List (Condition Parameter)}
    (h : List.Forall₂ (Binds Eq) qs ps) {q : Condition Value} {p : Condition Parameter}
    (hfirst : Binds Eq q p) :
    Binds Eq (qs.foldl .either q) (ps.foldl .either p) := by
  induction h generalizing q p with
  | nil => exact hfirst
  | cons hhead _ ih => exact ih (hfirst.either hhead)

/-- Disjunctions are bound alike where their members are. -/
theorem binds_any? {qs : List (Condition Value)} {ps : List (Condition Parameter)}
    (h : List.Forall₂ (Binds Eq) qs ps) :
    List.Forall₂ (Binds Eq) (Condition.any? qs).toList (Condition.any? ps).toList := by
  cases h with
  | nil => exact .nil
  | cons hhead htail => exact .cons (binds_either_foldl htail hhead) .nil

/-- The values of conditions that bind alike are written without a fault, and bound alike. -/
theorem mapM_write_of_binds {R : Condition Stored → Condition Stored → Prop}
    {qs : List (Condition Value)} {ps : List (Condition Parameter)}
    (h : List.Forall₂ (Binds R) qs ps) :
    ∃ ws, ps.mapM (Condition.traverse Parameter.write) = .ok ws ∧
      Alike (List.Forall₂ R) (qs.mapM (Condition.traverse Store.bind))
        (ws.mapM (Condition.traverse Store.bind)) := by
  induction h with
  | nil => exact ⟨[], rfl, .nil⟩
  | cons hhead _ ih =>
      obtain ⟨w, hw, halike⟩ := hhead
      obtain ⟨ws, hws, hrest⟩ := ih
      refine ⟨w :: ws, mapM_cons_eq_ok.2 ⟨w, ws, hw, hws, rfl⟩, ?_⟩
      rw [List.mapM_cons, List.mapM_cons]
      exact halike.bind fun _ _ _ _ hst => hrest.bind fun _ _ _ _ htail => .cons hst htail

/-- What is written for a scalar that is compared with a basic column is bound as the scalar
itself. -/
theorem write_parameter {c : Staged.TypedColumn} (hc : c.type.meaning.isBasic = true) {v : Value}
    (hv : v.isScalar = true) :
    ∃ w, (c.parameter v).write = .ok w ∧ Store.bind w = Store.bind v := by
  obtain ⟨ref, ⟨meaning, name, sizes⟩⟩ := c
  cases meaning with
  | integer =>
      cases v with
      | bool b => cases b <;> exact ⟨_, rfl, rfl⟩
      | null | int n | float x | text s | bytes bs | date d => exact ⟨_, rfl, rfl⟩
      | _ => cases hv
  | floating =>
      cases v with
      | bool b => cases b <;> exact ⟨_, rfl, rfl⟩
      | null | int n | float x | text s | bytes bs | date d => exact ⟨_, rfl, rfl⟩
      | _ => cases hv
  | text =>
      cases v with
      | bool b => cases b <;> exact ⟨_, rfl, rfl⟩
      | null | int n | float x | text s | bytes bs | date d => exact ⟨_, rfl, rfl⟩
      | _ => cases hv
  | _ => cases hc

variable {c : Staged.TypedColumn} {v : Value}

theorem binds_compare (hc : c.type.meaning.isBasic = true) (hv : v.isScalar = true)
    (op : Comparison) : Binds Eq (.compare op c.ref v) (.compare op c.ref (c.parameter v)) := by
  obtain ⟨w, hw, hbind⟩ := write_parameter hc hv
  refine ⟨.compare op c.ref w, ?_, ?_⟩
  · rw [Condition.traverse, hw]
    rfl
  · rw [Condition.traverse, Condition.traverse, hbind]
    exact Alike.refl _

theorem binds_compare_constant (op : Comparison) (c : ColumnRef) (b : Bool) :
    Binds Eq (.compare op c (.bool b)) (.compare op c (Staged.constant b)) := by
  cases b with
  | true => exact ⟨.compare op c (.int 1), rfl, rfl⟩
  | false => exact ⟨.compare op c (.int 0), rfl, rfl⟩

theorem binds_among (hc : c.type.meaning.isBasic = true) (hv : v.isScalar = true) :
    Binds Eq (.among c.ref [v]) (.among c.ref [c.parameter v]) := by
  obtain ⟨w, hw, hbind⟩ := write_parameter hc hv
  refine ⟨.among c.ref [w], ?_, ?_⟩
  · rw [Condition.traverse, List.mapM_cons, hw]
    rfl
  · rw [Condition.traverse, Condition.traverse, List.mapM_cons, List.mapM_cons, hbind]
    exact Alike.refl _

/-- Conditions without values are the same on both sides. -/
theorem binds_of_traverse {q : Condition Value} {p : Condition Parameter} {w : Condition Value}
    {s : Condition Stored} (hw : p.traverse Parameter.write = .ok w)
    (hq : q.traverse Store.bind = .ok s) (hs : w.traverse Store.bind = .ok s) : Binds Eq q p := by
  refine ⟨w, hw, ?_⟩
  rw [hq, hs]
  exact rfl

end Store

namespace Staged

open Store

variable {c : TypedColumn} {v : Value} {op : FilterOperator}

/-- There is no order of null or of a truth value in a staged compilation. -/
theorem filterClauses_of_unordered (hop : op.isOrder = true) (hv : v.isUnordered = true) :
    filterClauses c op v = .error .unavailable := by
  cases op with
  | greaterThan | lessThan | greaterThanOrEqual | lessThanOrEqual =>
      cases v with
      | null | bool b => rfl
      | _ => cases hv
  | _ => cases hop

theorem orderClause_of_ordered (hv : v.isUnordered = false) (op : Comparison) (c : TypedColumn) :
    orderClause op c v = .ok (.compare op c.ref (c.parameter v)) := by
  cases v with
  | null | bool b => cases hv
  | _ => rfl

theorem equalClause_of_scalar (hc : c.type.meaning.isBasic = true) (hv : v.isScalar = true)
    (hnull : isNullValue v = false) :
    Binds Eq (.compare .equal c.ref v) (equalClause c v) ∧
      Binds Eq (.compare .unequal c.ref v) (unequalClause c v) := by
  cases v with
  | null => cases hnull
  | bool b => exact ⟨binds_compare_constant _ _ _, binds_compare_constant _ _ _⟩
  | _ => exact ⟨binds_compare hc hv _, binds_compare hc hv _⟩

theorem amongClause_of_scalar (hv : v.isScalar = true) :
    amongClause c v = .ok (.among c.ref [c.parameter v]) ∧
      Direct.amongClause c.ref v = .among c.ref [v] := by
  cases v with
  | null | bool b | int n | float x | text s | bytes bs | date d => exact ⟨rfl, rfl⟩
  | _ => cases hv

theorem rangeClauses_of_scalar (hv : v.isScalar = true) :
    rangeClauses c v = .ok [] ∧ Direct.rangeClauses c.ref v = [] := by
  cases v with
  | null | bool b | int n | float x | text s | bytes bs | date d => exact ⟨rfl, rfl⟩
  | _ => cases hv

/-- A filter that looks for a text writes its value out on both sides, or fails on both. -/
theorem alike_like_of_written (c : ColumnRef) (pattern : String → String) (v : Value) :
    Alike (List.Forall₂ (Binds Eq)) (do return [.like c (pattern (← v.written))])
      (do return [.like c (pattern (← v.written))]) :=
  (Alike.refl v.written).bind fun s t _ _ hst => by
    rw [hst]
    exact .cons (binds_of_traverse rfl rfl rfl) .nil

/-- A filter that asks for no order of null or of a truth value, and not whether a cell equals null,
makes the same conditions on both sides. -/
theorem filterClauses_binds (hc : c.type.meaning.isBasic = true) (hv : v.isScalar = true)
    (hordered : (op.isOrder && v.isUnordered) = false)
    (hnull : (op.isEquality && isNullValue v) = false) :
    Alike (List.Forall₂ (Binds Eq)) (Direct.filterClauses c.ref op v) (filterClauses c op v) := by
  have horder : ∀ op : Comparison, v.isUnordered = false →
      Alike (List.Forall₂ (Binds Eq)) (.ok [.compare op c.ref v])
        (do return [← orderClause op c v]) := fun op hv' => by
    rw [orderClause_of_ordered hv' op c]
    exact .cons (binds_compare hc hv op) .nil
  cases op with
  | equals => exact .cons (equalClause_of_scalar hc hv hnull).1 .nil
  | notEqual => exact .cons (equalClause_of_scalar hc hv hnull).2 .nil
  | greaterThan => exact horder .greater hordered
  | lessThan => exact horder .less hordered
  | greaterThanOrEqual => exact horder .greaterOrEqual hordered
  | lessThanOrEqual => exact horder .lessOrEqual hordered
  | contains => exact alike_like_of_written c.ref (fun s => "%" ++ s ++ "%") v
  | startsWith => exact alike_like_of_written c.ref (fun s => s ++ "%") v
  | endsWith => exact alike_like_of_written c.ref (fun s => "%" ++ s) v
  | blank | notBlank => exact .cons (binds_of_traverse rfl rfl rfl) .nil
  | among =>
      obtain ⟨hstaged, hdirect⟩ := amongClause_of_scalar (c := c) hv
      rw [Direct.filterClauses, filterClauses, hdirect, hstaged]
      exact .cons (binds_among hc hv) .nil
  | inRange =>
      obtain ⟨hstaged, hdirect⟩ := rangeClauses_of_scalar (c := c) hv
      rw [Direct.filterClauses, filterClauses, hdirect, hstaged]
      exact .nil

/-- A filter that asks whether a cell equals null compares with null on one side and asks for the
cell on the other. -/
theorem filterClauses_of_null (hop : op.isEquality = true) (hv : isNullValue v = true) :
    ∃ comparison p, Direct.filterClauses c.ref op v = .ok [.compare comparison c.ref .null] ∧
      filterClauses c op v = .ok [p] ∧
      Binds (fun _ _ => True) (.compare comparison c.ref .null) p := by
  cases v with
  | null =>
      cases op with
      | equals => exact ⟨.equal, _, rfl, rfl, _, rfl, trivial⟩
      | notEqual => exact ⟨.unequal, _, rfl, rfl, _, rfl, trivial⟩
      | _ => cases hop
  | _ => cases hv

end Staged

end AdminGrid
