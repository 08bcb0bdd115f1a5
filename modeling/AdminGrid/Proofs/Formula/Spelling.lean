import AdminGrid.Formula.Grammar
import Mathlib.Logic.Basic

/-!
# What expressions are made of

A text is read as an expression by readers that call one another.  Many of them find only elements
that formulas do not allow, and an expression that holds such an element anywhere is not allowed
itself.  Whatever the readers find that is allowed is spelled by the words that they take: numbers,
names, signs of operations and round brackets, in their order, and no word is left out.
-/

namespace AdminGrid.Formula

namespace Expr

/-- Whether an expression holds no element that formulas do not allow. -/
def IsAllowed : Expr → Prop
  | number _ | name _ => True
  | binary _ left right => left.IsAllowed ∧ right.IsAllowed
  | negate e | keep e => e.IsAllowed
  | other _ => False

/-- Whether words spell an expression: its numbers and names with the signs of its operations, and
round brackets around any part of it. -/
inductive Spells : Expr → List Token → Prop
  | number (n : Numeral) : Spells (.number n) [.number n]
  | name (s : String) : Spells (.name s) [.name s]
  | binary {sign : String} {op : Operator} {left right : Expr} {ws us : List Token}
      (hsign : Entries.get? sign Operator.signs = some op) (hleft : Spells left ws)
      (hright : Spells right us) : Spells (.binary op left right) (ws ++ .mark sign :: us)
  | negate {e : Expr} {ws : List Token} (h : Spells e ws) : Spells (.negate e) (.mark "-" :: ws)
  | keep {e : Expr} {ws : List Token} (h : Spells e ws) : Spells (.keep e) (.mark "+" :: ws)
  | bracketed {e : Expr} {ws : List Token} (h : Spells e ws) :
      Spells e (.mark "(" :: (ws ++ [.mark ")"]))

end Expr

open Formula.Expr

/-- Whether what is taken from the front of some words spells the expression, if that is allowed. -/
def TakenSpelled (ts : List Token) (taken : Option (Expr × List Token)) : Prop :=
  ∀ e rest, taken = some (e, rest) → e.IsAllowed → ∃ ws, ts = ws ++ rest ∧ Spells e ws

/-- Whether nothing is taken but an expression that is not allowed. -/
def Refused (taken : Option (Expr × List Token)) : Prop :=
  ∀ e rest, taken = some (e, rest) → ¬ e.IsAllowed

theorem refused_none : Refused none := fun _ _ h => nomatch h

theorem refused_other (element : String) (rest : List Token) :
    Refused (some (.other element, rest)) := by
  rintro _ _ ⟨⟩
  exact not_false

theorem refused_bind {α : Type} {taken : Option α} {f : α → Option (Expr × List Token)}
    (h : ∀ a, Refused (f a)) : Refused (taken >>= f) := by
  cases taken with
  | none => exact refused_none
  | some a => exact h a

theorem refused_ite {p : Prop} [Decidable p] {taken taken' : Option (Expr × List Token)}
    (h : Refused taken) (h' : Refused taken') : Refused (if p then taken else taken') := by
  split
  · exact h
  · exact h'

theorem refused_takeFunction (fuel : Nat) (seen : ParametersSeen) (ts : List Token) :
    Refused (takeFunction fuel seen ts) := by
  induction fuel generalizing seen ts with
  | zero => exact refused_none
  | succ fuel ih =>
      have hfinish (rest : List Token) : Refused (takeMarkOf ":" rest >>= fun rest =>
          takeExpression fuel rest >>= fun found => some (.other "Lambda", found.2)) :=
        refused_bind fun _ => refused_bind fun _ => refused_other _ _
      rw [takeFunction.eq_def]
      dsimp only
      split
      case h_1 => exact refused_ite refused_none (hfinish _)
      case h_5 =>
        refine refused_ite refused_none ?_
        split <;> exact hfinish _
      case h_6 =>
        refine refused_bind fun _ => ?_
        split
        · exact ih _ _
        · exact refused_ite refused_none (hfinish _)
      case h_8 => exact refused_none
      -- a further parameter stands behind a comma
      all_goals
        refine refused_ite refused_none ?_
        split
        · exact ih _ _
        · exact refused_ite refused_none (hfinish _)

theorem refused_takeTexts (fuel : Nat) (isBytes formatted : Bool) (ts : List Token) :
    Refused (takeTexts fuel isBytes formatted ts) := by
  induction fuel generalizing formatted ts with
  | zero => exact refused_none
  | succ fuel ih =>
      rw [takeTexts.eq_def]
      dsimp only
      split
      · refine refused_ite refused_none ?_
        split
        · exact refused_ite (ih true _) refused_none
        · exact ih formatted _
      · exact refused_other _ _

theorem refused_takeBrackets (fuel : Nat) (ts : List Token) : Refused (takeBrackets fuel ts) := by
  cases fuel with
  | zero => exact refused_none
  | succ fuel =>
      rw [takeBrackets]
      cases takeMarkOf "]" ts with
      | some rest => exact refused_other _ _
      | none =>
          refine refused_bind fun (_, rest) => ?_
          dsimp only
          cases takeLoops fuel rest with
          | some rest => exact refused_ite refused_none (refused_bind fun _ => refused_other _ _)
          | none => exact refused_bind fun _ => refused_other _ _

theorem refused_takeBraces (fuel : Nat) (ts : List Token) : Refused (takeBraces fuel ts) := by
  cases fuel with
  | zero => exact refused_none
  | succ fuel =>
      rw [takeBraces.eq_def]
      dsimp only
      split
      · exact refused_other _ _
      · exact refused_bind fun _ => refused_bind fun _ => refused_other _ _
      · refine refused_bind fun (_, rest) => ?_
        dsimp only
        cases takeMarkOf ":" rest with
        | some rest =>
            refine refused_ite refused_none (refused_bind fun (_, rest) => ?_)
            dsimp only
            cases takeLoops fuel rest with
            | some rest => exact refused_bind fun _ => refused_other _ _
            | none => exact refused_bind fun _ => refused_other _ _
        | none =>
            cases takeLoops fuel rest with
            | some rest => exact refused_ite refused_none (refused_bind fun _ => refused_other _ _)
            | none => exact refused_bind fun _ => refused_other _ _

theorem Refused.takenSpelled {taken : Option (Expr × List Token)} (h : Refused taken)
    (ts : List Token) : TakenSpelled ts taken :=
  fun e rest htaken hallowed => absurd hallowed (h e rest htaken)

theorem takenSpelled_bind {ts : List Token} {taken : Option (Expr × List Token)}
    {f : Expr × List Token → Option (Expr × List Token)}
    (h : ∀ e rest, taken = some (e, rest) → TakenSpelled ts (f (e, rest))) :
    TakenSpelled ts (taken >>= f) := by
  cases htaken : taken with
  | none => exact refused_none.takenSpelled ts
  | some found => exact h found.1 found.2 htaken

theorem takenSpelled_some {ts ws rest : List Token} {e : Expr} (hts : ts = ws ++ rest)
    (h : e.IsAllowed → Spells e ws) : TakenSpelled ts (some (e, rest)) := by
  rintro _ _ ⟨⟩ hallowed
  exact ⟨ws, hts, h hallowed⟩

/-- The sign of an operation between two operands is one word. -/
theorem eq_mark_of_takeOperator {level : Nat} {sign : String} {ts rest : List Token}
    (h : takeOperator level ts = some (sign, rest)) {op : Operator}
    (hsign : Entries.get? sign Operator.signs = some op) : ts = .mark sign :: rest := by
  have hword {word : String} {tail : List Token} (hnone : Entries.get? word Operator.signs = none)
      (h : some (word, tail) = some (sign, rest)) : False := by
    cases h
    exact nomatch hsign.symm.trans hnone
  rw [takeOperator.eq_def] at h
  split at h
  · exact (hword rfl h).elim
  · exact (hword rfl h).elim
  · split at h
    · cases h
      rfl
    · cases h
  · exact (hword rfl h).elim
  · exact (hword rfl h).elim
  · exact (hword rfl h).elim
  · exact (hword rfl h).elim
  · split at h
    · cases h
      rfl
    · cases h
  · cases h

theorem eq_mark_of_takeMarkOf {m : String} {ts rest : List Token}
    (h : takeMarkOf m ts = some rest) : ts = .mark m :: rest := by
  rw [takeMarkOf.eq_def] at h
  split at h
  · split at h
    · rename_i heq
      cases h
      rw [heq]
    · cases h
  · cases h

/-- Of the operators only the five operations join two operands to an allowed expression. -/
theorem exists_of_isAllowed_joinAt {level : Nat} {sign : String} {left right : Expr}
    (h : (joinAt level sign left right).IsAllowed) :
    ∃ op, Entries.get? sign Operator.signs = some op ∧
      joinAt level sign left right = .binary op left right := by
  unfold joinAt at h ⊢
  by_cases hlogical : level ≤ 1
  · rw [if_pos hlogical] at h
    exact h.elim
  by_cases hcompare : level = 3
  · rw [if_neg hlogical, if_pos hcompare] at h
    exact h.elim
  rw [if_neg hlogical, if_neg hcompare] at h ⊢
  · cases hsign : Entries.get? sign Operator.signs with
    | none =>
        rw [hsign] at h
        exact h.elim
    | some op => exact ⟨op, rfl, rfl⟩

/-- What the readers of expressions take with a bound on their nested calls. -/
structure ReadersSpell (fuel : Nat) : Prop where
  expression : ∀ ts, TakenSpelled ts (takeExpression fuel ts)
  operand : ∀ level ts, TakenSpelled ts (takeOperand fuel level ts)
  chain : ∀ level left ts e rest, takeChain fuel level left ts = some (e, rest) → e.IsAllowed →
    left.IsAllowed ∧ ∃ ws, ts = ws ++ rest ∧ ∀ us, Spells left us → Spells e (us ++ ws)
  trailers : ∀ left ts e rest, takeTrailers fuel left ts = some (e, rest) → e.IsAllowed →
    e = left ∧ rest = ts
  atom : ∀ ts, TakenSpelled ts (takeAtom fuel ts)
  named : ∀ ts, TakenSpelled ts (takeNamed fuel ts)
  item : ∀ ts, TakenSpelled ts (takeItem fuel ts)
  parentheses : ∀ ts, TakenSpelled (.mark "(" :: ts) (takeParentheses fuel ts)

section Step

variable {fuel : Nat} (ih : ReadersSpell fuel)

include ih

theorem ReadersSpell.takeExpression_succ (ts : List Token) :
    TakenSpelled ts (takeExpression (fuel + 1) ts) := by
  rw [takeExpression]
  cases takeReserved "lambda" ts with
  | some rest => exact (refused_takeFunction fuel _ rest).takenSpelled ts
  | none =>
      refine takenSpelled_bind fun e rest htaken => ?_
      dsimp only
      cases takeReserved "if" rest with
      | none =>
          rintro _ _ ⟨⟩ hallowed
          exact ih.operand 0 ts e rest htaken hallowed
      | some rest =>
          refine Refused.takenSpelled ?_ ts
          exact refused_bind fun _ => refused_bind fun _ => refused_bind fun _ => refused_other _ _

theorem ReadersSpell.takeChain_succ {level : Nat} {left e : Expr} {ts rest : List Token}
    (h : takeChain (fuel + 1) level left ts = some (e, rest)) (hallowed : e.IsAllowed) :
    left.IsAllowed ∧ ∃ ws, ts = ws ++ rest ∧ ∀ us, Spells left us → Spells e (us ++ ws) := by
  rw [takeChain] at h
  cases htaken : takeOperator level ts with
  | none =>
      rw [htaken] at h
      cases h
      exact ⟨hallowed, [], rfl, fun us hus => (List.append_nil us).symm ▸ hus⟩
  | some found =>
      obtain ⟨sign, rest'⟩ := found
      rw [htaken] at h
      obtain ⟨⟨right, rest''⟩, hright, h⟩ := Option.bind_eq_some_iff.1 h
      obtain ⟨hjoined, ws, hws, hspells⟩ := ih.chain _ _ _ _ _ h hallowed
      obtain ⟨op, hsign, heq⟩ := exists_of_isAllowed_joinAt hjoined
      rw [heq] at hjoined hspells
      obtain ⟨vs, hvs, hvspells⟩ := ih.operand _ _ _ _ hright hjoined.2
      refine ⟨hjoined.1, .mark sign :: (vs ++ ws), ?_, fun us hus => ?_⟩
      · rw [eq_mark_of_takeOperator htaken hsign, hvs, hws]
        simp
      · have hbinary := hspells _ (.binary hsign hus hvspells)
        simpa using hbinary

theorem ReadersSpell.takeTrailers_succ {left e : Expr} {ts rest : List Token}
    (h : takeTrailers (fuel + 1) left ts = some (e, rest)) (hallowed : e.IsAllowed) :
    e = left ∧ rest = ts := by
  have hother {element : String} {ts : List Token}
      (h : takeTrailers fuel (.other element) ts = some (e, rest)) : False := by
    obtain ⟨rfl, -⟩ := ih.trailers _ _ _ _ h hallowed
    exact hallowed
  rw [takeTrailers.eq_def] at h
  dsimp only at h
  split at h
  · exact (hother h).elim
  · cases h
  · obtain ⟨rest', -, h⟩ := Option.bind_eq_some_iff.1 h
    exact (hother h).elim
  · obtain ⟨rest', -, h⟩ := Option.bind_eq_some_iff.1 h
    exact (hother h).elim
  · cases h
    exact ⟨rfl, rfl⟩

theorem ReadersSpell.takeNamed_succ (ts : List Token) :
    TakenSpelled ts (takeNamed (fuel + 1) ts) := by
  rw [takeNamed.eq_def]
  dsimp only
  split
  · exact (refused_bind fun _ => refused_other _ _).takenSpelled _
  · refine takenSpelled_bind fun e rest htaken => ?_
    dsimp only
    split
    · exact refused_none.takenSpelled ts
    · rintro _ _ ⟨⟩ hallowed
      exact ih.expression ts e rest htaken hallowed

theorem ReadersSpell.takeItem_succ (ts : List Token) :
    TakenSpelled ts (takeItem (fuel + 1) ts) := by
  rw [takeItem]
  cases takeMarkOf "*" ts with
  | none => exact ih.named ts
  | some rest =>
      refine Refused.takenSpelled ?_ ts
      rintro _ _ h
      obtain ⟨found, -, ⟨⟩⟩ := Option.map_eq_some_iff.1 h
      exact not_false

/-- A sign before an operand, or an operand with a power. -/
theorem ReadersSpell.takeSigned_succ (ts : List Token) :
    TakenSpelled ts (takeOperand (fuel + 1) 10 ts) := by
  rw [takeOperand.eq_def]
  dsimp only
  rw [if_neg (by decide), if_pos rfl]
  split
  · refine takenSpelled_bind fun e rest' htaken => ?_
    rintro _ _ ⟨⟩ hallowed
    obtain ⟨ws, hws, hspells⟩ := ih.operand 10 _ e rest' htaken hallowed
    exact ⟨_, congrArg _ hws, .negate hspells⟩
  · refine takenSpelled_bind fun e rest' htaken => ?_
    rintro _ _ ⟨⟩ hallowed
    obtain ⟨ws, hws, hspells⟩ := ih.operand 10 _ e rest' htaken hallowed
    exact ⟨_, congrArg _ hws, .keep hspells⟩
  · exact (refused_bind fun _ => refused_other _ _).takenSpelled _
  · refine takenSpelled_bind fun e rest htaken => ?_
    dsimp only
    cases takeMarkOf "**" rest with
    | none =>
        rintro _ _ ⟨⟩ hallowed
        exact ih.operand 11 ts e rest htaken hallowed
    | some rest => exact (refused_bind fun _ => refused_other _ _).takenSpelled _

/-- A primary with its calls, subscripts and attributes. -/
theorem ReadersSpell.takePrimary_succ (ts : List Token) :
    TakenSpelled ts (takeOperand (fuel + 1) 11 ts) := by
  rw [takeOperand.eq_def]
  dsimp only
  rw [if_neg (by decide), if_neg (by decide), if_pos rfl]
  cases takeReserved "await" ts with
  | some rest =>
      exact (refused_bind fun _ => refused_bind fun _ => refused_other _ _).takenSpelled ts
  | none =>
      refine takenSpelled_bind fun e rest htaken => ?_
      intro e' rest' htrailers hallowed
      obtain ⟨rfl, rfl⟩ := ih.trailers _ _ _ _ htrailers hallowed
      exact ih.atom ts e' rest' htaken hallowed

theorem ReadersSpell.takeOperand_succ (level : Nat) (ts : List Token) :
    TakenSpelled ts (takeOperand (fuel + 1) level ts) := by
  by_cases hten : level = 10
  · exact hten ▸ ih.takeSigned_succ ts
  by_cases heleven : level = 11
  · exact heleven ▸ ih.takePrimary_succ ts
  rw [takeOperand.eq_def]
  dsimp only
  split
  · cases takeReserved "not" ts with
    | some rest => exact (refused_bind fun _ => refused_other _ _).takenSpelled ts
    | none => exact ih.operand 3 ts
  · refine takenSpelled_bind fun left rest htaken => ?_
    intro e rest' hchain hallowed
    obtain ⟨hleft, ws, hws, hspells⟩ := ih.chain level left rest e rest' hchain hallowed
    obtain ⟨us, hus, huspells⟩ := ih.operand _ _ _ _ htaken hleft
    refine ⟨us ++ ws, ?_, hspells us huspells⟩
    rw [hus, hws, List.append_assoc]

theorem ReadersSpell.takeAtom_succ (ts : List Token) :
    TakenSpelled ts (takeAtom (fuel + 1) ts) := by
  rw [takeAtom.eq_def]
  dsimp only
  split
  · exact @takenSpelled_some _ [_] _ _ rfl fun _ => .number _
  · exact (refused_other _ _).takenSpelled _
  · exact @takenSpelled_some _ [_] _ _ rfl fun _ => .name _
  · exact (refused_ite (refused_other _ _) refused_none).takenSpelled _
  · exact (refused_other _ _).takenSpelled _
  · exact ih.parentheses _
  · exact (refused_takeBrackets fuel _).takenSpelled _
  · exact (refused_takeBraces fuel _).takenSpelled _
  · exact (refused_takeTexts fuel _ _ _).takenSpelled _
  · exact refused_none.takenSpelled _

theorem ReadersSpell.takeParentheses_succ (ts : List Token) :
    TakenSpelled (.mark "(" :: ts) (takeParentheses (fuel + 1) ts) := by
  rw [takeParentheses.eq_def]
  dsimp only
  split
  · exact (refused_other _ _).takenSpelled _
  · exact (refused_bind fun _ => refused_bind fun _ => refused_other _ _).takenSpelled _
  · exact (refused_other _ _).takenSpelled _
  · exact (refused_bind fun _ => refused_other _ _).takenSpelled _
  · refine takenSpelled_bind fun e rest htaken => ?_
    dsimp only
    cases hclosed : takeMarkOf ")" rest with
    | some rest' =>
        dsimp only
        split
        · exact refused_none.takenSpelled _
        · rintro _ _ ⟨⟩ hallowed
          obtain ⟨ws, hws, hspells⟩ := ih.item _ e rest htaken hallowed
          refine ⟨_, ?_, .bracketed hspells⟩
          rw [hws, eq_mark_of_takeMarkOf hclosed]
          simp
    | none =>
        refine Refused.takenSpelled ?_ _
        cases takeLoops fuel rest with
        | some rest => exact refused_ite refused_none (refused_bind fun _ => refused_other _ _)
        | none => exact refused_bind fun _ => refused_other _ _

end Step

/-- Whatever the readers take that is allowed is spelled by the words that were there. -/
theorem readersSpell (fuel : Nat) : ReadersSpell fuel := by
  induction fuel with
  | zero => exact
      { expression := fun ts => refused_none.takenSpelled ts
        operand := fun _ ts => refused_none.takenSpelled ts
        chain := fun _ _ _ _ _ h => nomatch h
        trailers := fun _ _ _ _ h => nomatch h
        atom := fun ts => refused_none.takenSpelled ts
        named := fun ts => refused_none.takenSpelled ts
        item := fun ts => refused_none.takenSpelled ts
        parentheses := fun ts => refused_none.takenSpelled _ }
  | succ fuel ih => exact
      { expression := ih.takeExpression_succ
        operand := ih.takeOperand_succ
        chain := fun _ _ _ _ _ => ih.takeChain_succ
        trailers := fun _ _ _ _ => ih.takeTrailers_succ
        atom := ih.takeAtom_succ
        named := ih.takeNamed_succ
        item := ih.takeItem_succ
        parentheses := ih.takeParentheses_succ }

/-- The words of a text whose expression is allowed spell it, and nothing else stands there but
line ends. -/
theorem spells_of_ofText? {s : String} {e : Expr} (h : Expr.ofText? s = some e)
    (hallowed : e.IsAllowed) :
    ∃ words ends, tokens? s.toList = some (words ++ ends) ∧ (∀ t ∈ ends, t = .lineEnd) ∧
      Spells e words := by
  unfold Expr.ofText? at h
  obtain ⟨ts, hts, h⟩ := Option.bind_eq_some_iff.1 h
  obtain ⟨⟨e', rest⟩, htaken, h⟩ := Option.bind_eq_some_iff.1 h
  dsimp only at h
  split at h
  · rename_i hends
    cases h
    obtain ⟨words, rfl, hspells⟩ := (readersSpell _).expression ts e rest htaken hallowed
    refine ⟨words, rest, hts, fun t ht => ?_, hspells⟩
    exact beq_iff_eq.1 (List.all_eq_true.1 hends t ht)
  · split at h
    · cases h
      exact hallowed.elim
    · cases h

end AdminGrid.Formula
