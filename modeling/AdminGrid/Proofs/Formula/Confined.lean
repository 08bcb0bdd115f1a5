import AdminGrid.Proofs.Formula.Range
import AdminGrid.Proofs.Formula.Spelling

/-!
# Formulas are confined

An expression that has a value is built from numbers, the names of cells, the five operations and
the two signs, and nothing else stands in its text.  Its value is computed from the cells of its
names alone.  So a formula depends on its source fields and on no other cell of a row, whatever its
logic is.
-/

namespace AdminGrid.Formula

namespace Expr

/-- The names in an expression. -/
def names : Expr → List String
  | number _ | other _ => []
  | name s => [s]
  | binary _ left right => left.names ++ right.names
  | negate e | keep e => e.names

/-- The value of an expression by the rules of arithmetic, a name standing for the number of its
cell. -/
inductive Computes (cells : List (String × Value)) : Expr → Numeral → Prop
  | number (n : Numeral) : Computes cells (.number n) n
  | name {s : String} {cell : Value} {n : Numeral} (hcell : Entries.get? s cells = some cell)
      (hn : toNumber cell = .ok n) : Computes cells (.name s) n
  | binary {op : Operator} {left right : Expr} {a b c : Numeral} (hleft : Computes cells left a)
      (hright : Computes cells right b) (hc : op.onNumerals a b = .ok c) :
      Computes cells (.binary op left right) c
  | negate {e : Expr} {n : Numeral} (h : Computes cells e n) : Computes cells (.negate e) n.neg
  | keep {e : Expr} {n : Numeral} (h : Computes cells e n) : Computes cells (.keep e) n

variable {cells cells' : List (String × Value)} {e : Expr} {v : Numeral}

theorem apply_eq_ok_iff {op : Operator} {a b c : Numeral} :
    op.apply a b = .ok c ↔ op.onNumerals a b = .ok c := by
  unfold Operator.apply
  cases op.onNumerals a b <;> simp

theorem computes_of_eval (h : e.eval cells = .ok v) : Computes cells e v := by
  induction e generalizing v with
  | number n =>
      cases h
      exact .number n
  | name s =>
      rw [eval] at h
      cases hcell : Entries.get? s cells with
      | none =>
          rw [hcell] at h
          cases h
      | some cell =>
          rw [hcell] at h
          exact .name hcell h
  | binary op left right ihleft ihright =>
      rw [eval, bind_eq_ok] at h
      obtain ⟨a, ha, h⟩ := h
      obtain ⟨b, hb, h⟩ := bind_eq_ok.1 h
      exact .binary (ihleft ha) (ihright hb) (apply_eq_ok_iff.1 h)
  | negate e ih =>
      rw [eval, bind_eq_ok] at h
      obtain ⟨n, hn, h⟩ := h
      obtain rfl := pure_eq_ok.1 h
      exact .negate (ih hn)
  | keep e ih => exact .keep (ih h)
  | other element => cases h

theorem eval_of_computes (h : Computes cells e v) : e.eval cells = .ok v := by
  induction h with
  | number n => rfl
  | name hcell hn => rw [eval, hcell]; exact hn
  | binary _ _ hc ihleft ihright =>
      rw [eval, ihleft]
      show (eval cells _ >>= _) = _
      rw [ihright]
      exact apply_eq_ok_iff.2 hc
  | negate _ ih =>
      rw [eval, ih]
      rfl
  | keep _ ih => exact ih

theorem Computes.isAllowed (h : Computes cells e v) : e.IsAllowed := by
  induction h with
  | number | name => trivial
  | binary _ _ _ ihleft ihright => exact ⟨ihleft, ihright⟩
  | negate _ ih | keep _ ih => exact ih

theorem Computes.exists_cell (h : Computes cells e v) :
    ∀ s ∈ e.names, ∃ cell, Entries.get? s cells = some cell := by
  induction h with
  | number => exact fun s hs => nomatch hs
  | @name s cell _ hcell _ =>
      intro t ht
      obtain rfl := List.mem_singleton.1 ht
      exact ⟨cell, hcell⟩
  | binary _ _ _ ihleft ihright =>
      intro s hs
      exact (List.mem_append.1 hs).elim (ihleft s) (ihright s)
  | negate _ ih | keep _ ih => exact ih

/-- An expression is evaluated from the cells of its names. -/
theorem eval_congr (h : ∀ s ∈ e.names, Entries.get? s cells' = Entries.get? s cells) :
    e.eval cells' = e.eval cells := by
  induction e with
  | number n => rfl
  | name s => rw [eval, eval, h s (List.mem_singleton.2 rfl)]
  | binary op left right ihleft ihright =>
      rw [eval, eval, ihleft fun s hs => h s (List.mem_append_left _ hs),
        ihright fun s hs => h s (List.mem_append_right _ hs)]
  | negate e ih => rw [eval, eval, ih h]
  | keep e ih => exact ih h
  | other element => rfl

end Expr

open Formula.Expr

/-- What there is to an expression with a value. -/
structure Confined (text : String) (cells : List (String × Value)) (v : Numeral) (e : Expr) :
    Prop where
  read : Expr.ofText? (Text.strip text) = some e
  /-- The words of the text are those of the expression. -/
  spelled : ∃ words ends, tokens? (Text.strip text).toList = some (words ++ ends) ∧
    (∀ t ∈ ends, t = .lineEnd) ∧ Spells e words
  allowed : e.IsAllowed
  named : ∀ s ∈ e.names, ∃ cell, Entries.get? s cells = some cell
  computed : Computes cells e v
  /-- The value stays the same, whatever becomes of the cells of other names. -/
  unchanged : ∀ cells', (∀ s ∈ e.names, Entries.get? s cells' = Entries.get? s cells) →
    evaluateExpression text cells' = .ok v

theorem evaluateExpression_eq_ok_iff {text : String} {cells : List (String × Value)} {v : Numeral} :
    evaluateExpression text cells = .ok v ↔
      ∃ e, Expr.ofText? (Text.strip text) = some e ∧ e.eval cells = .ok v := by
  unfold evaluateExpression
  dsimp only
  cases Expr.ofText? (Text.strip text) with
  | none => simp
  | some e => simp

theorem compute_congr {f : FormulaSpec} {row row' : List (String × Value)}
    (h : ∀ field ∈ f.sourceFields, cellAt row field = cellAt row' field) :
    compute f row = compute f row' := by
  have hcells : f.sourceFields.map (cellAt row) = f.sourceFields.map (cellAt row') :=
    List.map_congr_left h
  have hentries : f.sourceFields.map (fun field => (field, cellAt row field)) =
      f.sourceFields.map fun field => (field, cellAt row' field) :=
    List.map_congr_left fun field hfield => by rw [h field hfield]
  unfold compute
  rw [hcells, hentries]

/-- An expression with a value is confined to allowed elements and the cells of its names, and each
short text that is confined like this has its value.  A formula is confined to its source fields. -/
theorem formulas_confined :
    (∀ (text : String) (cells : List (String × Value)) (v : Numeral),
      (evaluateExpression text cells = .ok v → ∃ e, Confined text cells v e) ∧
      (text.length ≤ shortLength → ∀ e, Confined text cells v e →
        evaluateExpression text cells = .ok v)) ∧
    ∀ (f : FormulaSpec) (row row' : List (String × Value)),
      (∀ field ∈ f.sourceFields, cellAt row field = cellAt row' field) →
        compute f row = compute f row' := by
  refine ⟨fun text cells v => ⟨fun h => ?_, fun _ e h => ?_⟩,
    fun f row row' h => compute_congr h⟩
  · obtain ⟨e, hread, heval⟩ := evaluateExpression_eq_ok_iff.1 h
    have hcomputed := computes_of_eval heval
    exact ⟨e,
      { read := hread
        spelled := spells_of_ofText? hread hcomputed.isAllowed
        allowed := hcomputed.isAllowed
        named := hcomputed.exists_cell
        computed := hcomputed
        unchanged := fun cells' hcells =>
          evaluateExpression_eq_ok_iff.2 ⟨e, hread, (eval_congr hcells).trans heval⟩ }⟩
  · exact evaluateExpression_eq_ok_iff.2 ⟨e, h.read, eval_of_computes h.computed⟩

section Net

def netText : String := " -(price + 2) * rate"

/-- Cells with one that the expression does not name. -/
def netCells (secret : Value) : List (String × Value) :=
  [("price", .int 3), ("rate", .text "2"), ("secret", secret)]

/-- An expression between brackets and signs does not see a cell that it does not name, and its
formula sees no cell that is no source field. -/
theorem formulas_confined_net :
    evaluateExpression netText (netCells (.text "x")) = .ok (.int (-10)) ∧
      netText.length ≤ shortLength ∧
      evaluateExpression netText (netCells .null) = .ok (.int (-10)) ∧
      compute ⟨"net", none, ["price", "rate"], netText, .beforeSource⟩ (netCells (.text "x")) =
        compute ⟨"net", none, ["price", "rate"], netText, .beforeSource⟩ (netCells .null) := by
  have htokens : tokens? (Text.strip netText).toList = some [.mark "-", .mark "(", .name "price",
      .mark "+", .number (.int 2), .mark ")", .mark "*", .name "rate", .lineEnd] := by
    decide +kernel
  have hlength : (Text.strip netText).length = 19 := by decide +kernel
  have hread : Expr.ofText? (Text.strip netText) = some (.binary .mul
      (.negate (.binary .add (.name "price") (.number (.int 2)))) (.name "rate")) := by
    rw [Expr.ofText?, htokens, hlength]
    rfl
  have hvalue : evaluateExpression netText (netCells (.text "x")) = .ok (.int (-10)) :=
    evaluateExpression_eq_ok_iff.2 ⟨_, hread, rfl⟩
  have hshort : netText.length ≤ shortLength := by decide
  obtain ⟨e, h⟩ := (formulas_confined.1 netText (netCells (.text "x")) (.int (-10))).1 hvalue
  obtain rfl := Option.some.inj (hread.symm.trans h.read)
  have hcells : ∀ s ∈ Expr.names (.binary .mul
      (.negate (.binary .add (.name "price") (.number (.int 2)))) (.name "rate")),
        Entries.get? s (netCells .null) = Entries.get? s (netCells (.text "x")) := by
    intro s hs
    obtain rfl | rfl : s = "price" ∨ s = "rate" := by simpa [Expr.names] using hs
    · rfl
    · rfl
  obtain ⟨e', h'⟩ := (formulas_confined.1 netText (netCells .null) (.int (-10))).1
    (h.unchanged (netCells .null) hcells)
  have hsame := (formulas_confined.1 netText (netCells .null) (.int (-10))).2 hshort e' h'
  refine ⟨hvalue, hshort, hsame, formulas_confined.2 _ _ _ fun field hfield => ?_⟩
  obtain rfl | rfl : field = "price" ∨ field = "rate" := by simpa using hfield
  · rfl
  · rfl

end Net

end AdminGrid.Formula
