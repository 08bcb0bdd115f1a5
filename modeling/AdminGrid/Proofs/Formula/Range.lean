import AdminGrid.Formula.Compute
import AdminGrid.Proofs.Number.Range
import AdminGrid.Proofs.Outcome

/-!
# Formulas in range

A formula that cannot be computed leaves its cell empty, but only as far as the fault is one of the
formula and its cells.  What is left are numbers out of range: a whole number that meets a floating
one and is too large to become one itself, a quotient of whole numbers that is too large, and a
whole number with too many digits to be written.  A formula has a value in a row exactly if none of
them comes up on the way that its computation takes.  A long text may also be nested too deeply to
be read, which a short one never is.
-/

namespace AdminGrid

/-- The length up to which a text is read and evaluated however deeply its expression is nested. -/
def Formula.shortLength : Nat := 200

/-- Whether the logic of a formula is short. -/
def FormulaSpec.IsShort (f : FormulaSpec) : Prop := f.logic.length ≤ Formula.shortLength

instance (f : FormulaSpec) : Decidable f.IsShort := inferInstanceAs (Decidable (_ ≤ _))

/-- Whether an attempt succeeds, or fails in a way that leaves a cell empty. -/
def Settles {α : Type} : Attempt α → Prop
  | .ok _ | .error (.format _) => True
  | .error _ => False

section Settles

variable {α β : Type}

theorem settles_bind_iff {a : Attempt α} {f : α → Attempt β} :
    Settles (a >>= f) ↔ Settles a ∧ ∀ x, a = .ok x → Settles (f x) := by
  cases a with
  | ok x => simp [bind, Except.bind, Settles]
  | error e => cases e <;> simp [bind, Except.bind, Settles]

/-- A last step that always settles does not matter. -/
theorem settles_bind_iff_left {a : Attempt α} {f : α → Attempt β} (h : ∀ x, Settles (f x)) :
    Settles (a >>= f) ↔ Settles a := by
  rw [settles_bind_iff]
  exact and_iff_left fun x _ => h x

theorem settles_bind_pure_iff {a : Attempt α} {f : α → β} :
    Settles (a >>= fun x => pure (f x)) ↔ Settles a :=
  settles_bind_iff_left fun _ => trivial

theorem settles_mapM {f : α → Attempt β} {xs : List α} (h : ∀ x ∈ xs, Settles (f x)) :
    Settles (xs.mapM f) := by
  induction xs with
  | nil => trivial
  | cons x xs ih =>
      rw [List.forall_mem_cons] at h
      rw [List.mapM_cons, settles_bind_iff]
      exact ⟨h.1, fun y _ => settles_bind_pure_iff.2 (ih h.2)⟩

end Settles

namespace Formula

/-- Whether two operands keep an operation in range: a floating operand asks for another one that
fits, and a quotient of whole numbers must fit itself. -/
def Operator.InRange : Operator → Numeral → Numeral → Prop
  | op, .int m, .int n => op = .div → n ≠ 0 → m.natAbs < floatLimit * n.natAbs
  | _, a, b => a.FitsFloat ∧ b.FitsFloat

theorem settles_lifted_iff {α : Type} {result : Except ArithmeticFault α} :
    Settles (lifted result) ↔ result ≠ .error .outOfRange := by
  cases result with
  | ok x => simp [lifted, Settles]
  | error fault => cases fault <;> simp [lifted, Settles, ArithmeticFault.toFailure]

theorem apply_eq_lifted (op : Operator) (a b : Numeral) :
    op.apply a b = lifted (op.onNumerals a b) := by
  unfold Operator.apply lifted
  cases op.onNumerals a b <;> rfl

/-- An operation on two numbers made floating is out of range exactly if one of them does not
fit. -/
theorem bind_toFloat_eq_outOfRange_iff {a b : Numeral}
    {f : Binary64 → Binary64 → Except ArithmeticFault Numeral}
    (hf : ∀ x y, f x y ≠ .error .outOfRange) :
    (a.toFloat >>= fun x => b.toFloat >>= fun y => f x y) = .error .outOfRange ↔
      ¬ (a.FitsFloat ∧ b.FitsFloat) := by
  by_cases ha : a.FitsFloat
  · obtain ⟨x, hx⟩ := Numeral.exists_toFloat ha
    by_cases hb : b.FitsFloat
    · obtain ⟨y, hy⟩ := Numeral.exists_toFloat hb
      rw [hx, hy]
      exact iff_of_false (hf x y) (not_not_intro ⟨ha, hb⟩)
    · rw [hx, Numeral.toFloat_of_not_fitsFloat hb]
      exact iff_of_true rfl fun h => hb h.2
  · rw [Numeral.toFloat_of_not_fitsFloat ha]
    exact iff_of_true rfl fun h => ha h.1

theorem lift_eq_outOfRange_iff {op : Operator} (hop : op ≠ .div) {onInt : Int → Int → Int}
    {onFloat : Binary64 → Binary64 → Binary64} {a b : Numeral} :
    Numeral.lift onInt onFloat a b = .error .outOfRange ↔ ¬ op.InRange a b := by
  have hfloat := @bind_toFloat_eq_outOfRange_iff a b
    (fun x y => pure (.float (onFloat x y))) fun x y => by simp [pure, Except.pure]
  cases a with
  | int m =>
      cases b with
      | int n => simp [Numeral.lift, Operator.InRange, hop]
      | float y => exact hfloat
  | float x => exact hfloat

/-- A division of floating numbers fails only where the divisor is zero. -/
theorem ite_zeroDivisor_ne_outOfRange {p : Prop} [Decidable p] {x : Numeral} :
    (if p then .error .zeroDivisor else pure x : Except ArithmeticFault Numeral) ≠
      .error .outOfRange := by
  split <;> simp [pure, Except.pure]

theorem onNumerals_eq_outOfRange_iff {op : Operator} {a b : Numeral} :
    op.onNumerals a b = .error .outOfRange ↔ ¬ op.InRange a b := by
  cases op with
  | add | sub | mul => exact lift_eq_outOfRange_iff (by decide)
  | div =>
      have hfloat := @bind_toFloat_eq_outOfRange_iff a b
        (fun x y => if y.isZero then .error .zeroDivisor else pure (.float (x.div y)))
        fun x y => ite_zeroDivisor_ne_outOfRange
      cases a with
      | int m =>
          cases b with
          | int n =>
              refine (Numeral.divInt_eq_outOfRange_iff m n).trans ?_
              simp only [Operator.InRange, forall_const, Classical.not_imp, Nat.not_lt]
          | float y => exact hfloat
      | float x => exact hfloat
  | mod =>
      have hfloat := @bind_toFloat_eq_outOfRange_iff a b
        (fun x y => if y.isZero then .error .zeroDivisor else pure (.float (x.mod y)))
        fun x y => ite_zeroDivisor_ne_outOfRange
      cases a with
      | int m =>
          cases b with
          | int n =>
              refine iff_of_false ?_ (not_not_intro fun hdiv => nomatch hdiv)
              exact ite_zeroDivisor_ne_outOfRange (p := n = 0)
          | float y => exact hfloat
      | float x => exact hfloat

/-- An operation settles exactly if its operands keep it in range. -/
theorem settles_apply_iff {op : Operator} {a b : Numeral} :
    Settles (op.apply a b) ↔ op.InRange a b := by
  rw [apply_eq_lifted, settles_lifted_iff, ne_eq, onNumerals_eq_outOfRange_iff, not_not]

theorem settles_toNumber (cell : Value) : Settles (toNumber cell) := by
  unfold toNumber
  split
  · exact True.intro
  · split
    · exact True.intro
    · generalize Text.replaceChar ',' "" (Text.strip cell.cellText) = text
      dsimp only
      split
      · exact True.intro
      · split
        · exact True.intro
        · split <;> exact True.intro

theorem settles_toNumbers (cells : List Value) : Settles (cells.mapM toNumber) :=
  settles_mapM fun cell _ => settles_toNumber cell

/-- Whether an operation that joins numbers from the left stays in range as far as it gets. -/
def Operator.FoldInRange (op : Operator) : Numeral → List Numeral → Prop
  | _, [] => True
  | acc, n :: rest => op.InRange acc n ∧ ∀ r, op.apply acc n = .ok r → op.FoldInRange r rest

theorem settles_foldlM_iff {op : Operator} {acc : Numeral} {numbers : List Numeral} :
    Settles (numbers.foldlM op.apply acc) ↔ op.FoldInRange acc numbers := by
  induction numbers generalizing acc with
  | nil => exact iff_of_true trivial trivial
  | cons n rest ih =>
      rw [List.foldlM_cons, settles_bind_iff, settles_apply_iff]
      exact and_congr_right fun _ => forall_congr' fun r => imp_congr_right fun _ => ih

theorem settles_joined_iff {op : Operator} {numbers : List Numeral} :
    Settles (joined op numbers) ↔
      ∀ first rest, numbers = first :: rest → op.FoldInRange first rest := by
  cases numbers with
  | nil => exact iff_of_true trivial fun first rest h => nomatch h
  | cons n numbers =>
      refine (settles_bind_pure_iff.trans settles_foldlM_iff).trans ?_
      constructor
      · rintro h _ _ ⟨⟩
        exact h
      · exact fun h => h n numbers rfl

theorem lifted_bind {α β : Type} (a : Except ArithmeticFault α)
    (f : α → Except ArithmeticFault β) :
    lifted (a >>= f) = lifted a >>= fun x => lifted (f x) := by
  cases a <;> rfl

theorem lifted_sum (numbers : List Numeral) :
    lifted (Numeral.sum numbers) = numbers.foldlM Operator.add.apply (.int 0) := by
  unfold Numeral.sum
  generalize Numeral.int 0 = acc
  induction numbers generalizing acc with
  | nil => rfl
  | cons n rest ih =>
      rw [List.foldlM_cons, List.foldlM_cons, lifted_bind, apply_eq_lifted]
      exact bind_congr fun r => ih r

/-- Whether a summary of the cells that are not empty stays in range. -/
def Summary.InRange (present : List Value) : Summary → Prop
  | .join => ∀ v ∈ present, v.isWritable = true
  | .sum => ∀ numbers, present.mapM toNumber = .ok numbers →
      Operator.add.FoldInRange (.int 0) numbers
  | .average => ∀ numbers, present.mapM toNumber = .ok numbers →
      Operator.add.FoldInRange (.int 0) numbers ∧
        ∀ total, numbers.foldlM Operator.add.apply (.int 0) = .ok total →
          Operator.div.InRange total (.int numbers.length)
  | .least | .greatest | .count => True

theorem settles_written_iff {v : Value} : Settles v.written ↔ v.isWritable = true := by
  unfold Value.written
  split
  · exact iff_of_true trivial ‹_›
  · exact iff_of_false (fun h => h) ‹_›

theorem settles_mapM_written_iff {present : List Value} :
    Settles (present.mapM Value.written) ↔ ∀ v ∈ present, v.isWritable = true := by
  induction present with
  | nil => exact iff_of_true trivial fun v hv => nomatch hv
  | cons v rest ih =>
      rw [List.mapM_cons, settles_bind_iff, List.forall_mem_cons, settles_written_iff]
      refine and_congr_right fun hv => ?_
      simp only [settles_bind_pure_iff, ih, Value.written, if_pos hv, Except.ok.injEq,
        forall_eq']

theorem Summary.inRange_nil (summary : Summary) : summary.InRange [] := by
  cases summary with
  | sum =>
      rintro _ ⟨⟩
      trivial
  | average =>
      rintro _ ⟨⟩
      refine ⟨trivial, ?_⟩
      rintro _ ⟨⟩ -
      exact fun h => absurd rfl h
  | join => exact fun v hv => nomatch hv
  | least | greatest | count => trivial

/-- A summary of cells that are all empty settles, so only the other ones matter. -/
theorem settles_unless_empty_iff {summary : Summary} {present : List Value} {fault : FormatFault}
    {a : Attempt Value} (h : Settles a ↔ summary.InRange present) :
    Settles (if present.isEmpty then .error (.format fault) else a) ↔ summary.InRange present := by
  cases present with
  | nil => exact iff_of_true trivial summary.inRange_nil
  | cons v rest => exact h

theorem settles_summarise_iff {name : String} {summary : Summary} {present : List Value} :
    Settles (summarise name summary present) ↔ summary.InRange present := by
  have hnumbers := settles_toNumbers present
  cases summary with
  | count => exact iff_of_true trivial trivial
  | join => exact settles_bind_pure_iff.trans settles_mapM_written_iff
  | sum =>
      refine settles_unless_empty_iff ?_
      rw [settles_bind_iff, and_iff_right hnumbers]
      refine forall_congr' fun numbers => imp_congr_right fun _ => ?_
      exact settles_bind_pure_iff.trans (by rw [lifted_sum, settles_foldlM_iff])
  | average =>
      refine settles_unless_empty_iff ?_
      rw [settles_bind_iff, and_iff_right hnumbers]
      refine forall_congr' fun numbers => imp_congr_right fun _ => ?_
      refine settles_bind_iff.trans ?_
      rw [lifted_sum, settles_foldlM_iff]
      refine and_congr_right fun _ => forall_congr' fun total => imp_congr_right fun _ => ?_
      rw [← settles_apply_iff, apply_eq_lifted]
      exact settles_bind_pure_iff
  | least | greatest =>
      refine settles_unless_empty_iff (iff_of_true ?_ trivial)
      rw [settles_bind_iff]
      refine ⟨hnumbers, fun numbers _ => ?_⟩
      cases numbers <;> trivial

/-- Whether an expression stays in range as far as it is evaluated. -/
def Expr.InRange (cells : List (String × Value)) : Expr → Prop
  | .binary op left right => left.InRange cells ∧ ∀ a, left.eval cells = .ok a →
      right.InRange cells ∧ ∀ b, right.eval cells = .ok b → op.InRange a b
  | .negate e | .keep e => e.InRange cells
  | .number _ | .name _ | .other _ => True

theorem settles_eval_iff {cells : List (String × Value)} {e : Expr} :
    Settles (e.eval cells) ↔ e.InRange cells := by
  induction e with
  | number n => exact iff_of_true trivial trivial
  | name s =>
      refine iff_of_true ?_ trivial
      rw [Expr.eval]
      cases Entries.get? s cells with
      | some cell => exact settles_toNumber cell
      | none => trivial
  | binary op left right ihleft ihright =>
      rw [Expr.eval, settles_bind_iff, ihleft]
      refine and_congr_right fun _ => forall_congr' fun a => imp_congr_right fun _ => ?_
      rw [settles_bind_iff, ihright]
      exact and_congr_right fun _ => forall_congr' fun b =>
        imp_congr_right fun _ => settles_apply_iff
  | negate e ih =>
      rw [Expr.eval, settles_bind_pure_iff]
      exact ih
  | keep e ih => exact ih
  | other element => exact iff_of_true trivial trivial

end Formula

open Formula

/-- Whether the numbers of a formula stay in range in a row, as far as they are computed. -/
def FormulaSpec.InRange (f : FormulaSpec) (row : List (String × Value)) : Prop :=
  let logic := Text.strip f.logic
  match Entries.get? logic Operator.signs with
  | some op => ∀ first rest,
      (f.sourceFields.map (cellAt row)).mapM toNumber = .ok (first :: rest) →
        op.FoldInRange first rest
  | none =>
      match Entries.get? (Text.lower logic) Summary.names with
      | some summary =>
          summary.InRange ((f.sourceFields.map (cellAt row)).filter fun v => !v.isBlank)
      | none => ∀ e, Expr.ofText? (Text.strip logic) = some e →
          e.InRange (Entries.ofList (f.sourceFields.map fun field => (field, cellAt row field)))

theorem settles_compute_iff {f : FormulaSpec} {row : List (String × Value)} :
    Settles (compute f row) ↔ f.InRange row := by
  unfold compute FormulaSpec.InRange
  dsimp only
  cases Entries.get? (Text.strip f.logic) Operator.signs with
  | some op =>
      dsimp only
      cases hfields : f.sourceFields with
      | nil => exact iff_of_true trivial (by rintro _ _ ⟨⟩)
      | cons field fields =>
          refine settles_bind_iff.trans ?_
          rw [and_iff_right (settles_toNumbers _)]
          -- the result of the join is only tidied up
          refine (forall₂_congr fun numbers _ =>
            settles_bind_iff_left fun result => ?_).trans ?_
          · cases result <;> trivial
          constructor
          · intro h first rest hnumbers
            exact settles_joined_iff.1 (h _ hnumbers) first rest rfl
          · intro h numbers hnumbers
            refine settles_joined_iff.2 ?_
            rintro first rest rfl
            exact h first rest hnumbers
  | none =>
      dsimp only
      cases Entries.get? (Text.lower (Text.strip f.logic)) Summary.names with
      | some summary => exact settles_summarise_iff
      | none =>
          refine settles_bind_pure_iff.trans ?_
          unfold evaluateExpression
          dsimp only
          cases Expr.ofText? (Text.strip (Text.strip f.logic)) with
          | some e => simp only [settles_eval_iff, Option.some.injEq, forall_eq']
          | none => exact iff_of_true trivial fun e he => nomatch he

/-- A formula has a value in a row exactly if its numbers stay in range. -/
theorem exists_evaluate_iff {f : FormulaSpec} {row : List (String × Value)} :
    (∃ v, evaluate f row = .ok v) ↔ f.InRange row := by
  rw [← settles_compute_iff]
  unfold evaluate
  cases compute f row with
  | ok v => simp [Settles]
  | error e => cases e <;> simp [Settles]

end AdminGrid
