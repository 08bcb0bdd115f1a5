import AdminGrid.Formula.Compute
import AdminGrid.Proofs.Entries
import AdminGrid.Proofs.Outcome
import AdminGrid.Proofs.Text.Trim

/-!
# Chains of one operator

The logic of a formula can be the sign of an operation, which joins the numbers of all source fields
from the left, or an expression.  The expression that names the source fields with the sign between
them says the same: its words are read as a chain that binds from the left, so its value is the same
fold.  `JoinsTo` is what both forms come to.
-/

namespace AdminGrid.Formula

/-- Whether a text is a name in plain letters: ASCII letters, digits and underscores, no digit in
front, and no reserved word. -/
def isPlainName (s : String) : Bool :=
  s.toList.head?.any (fun c => c.isAlpha || c == '_') &&
    s.toList.all (fun c => c.isAlphanum || c == '_') && !reservedWords.contains s

/-- The expression that joins names by one operator. -/
def chainText (sign : String) (names : List String) : String :=
  (" " ++ sign ++ " ").intercalate names

/-- The words behind the first name of a chain. -/
def chainWords (sign : String) (names : List String) : List Token :=
  names.flatMap fun s => [.mark sign, .name s]

/-- A chain of names behind an operand, read from the left. -/
def chainFrom (op : Operator) (left : Expr) (names : List String) : Expr :=
  names.foldl (fun e s => .binary op e (.name s)) left

section Words

variable {s sign : String} {rest : List Char}

theorem toNat_of_wordChar {c : Char} (h : (c.isAlphanum || c == '_') = true) :
    48 ≤ c.toNat ∧ c.toNat < 123 := by
  rw [Bool.or_eq_true, beq_iff_eq] at h
  rcases h with h | rfl
  · delta Char.isAlphanum Char.isAlpha Char.isUpper Char.isLower Char.isDigit at h
    simp only [Bool.or_eq_true, Bool.and_eq_true, decide_eq_true_eq, ge_iff_le,
      UInt32.le_iff_toNat_le] at h
    simp only [Char.isValue, Char.reduceVal, UInt32.reduceToNat, Char.toNat_val] at h
    omega
  · decide

theorem isDigit_of_isAlpha {c : Char} (h : c.isAlpha = true) : c.isDigit = false := by
  delta Char.isAlpha Char.isUpper Char.isLower at h
  simp only [Bool.or_eq_true, Bool.and_eq_true, decide_eq_true_eq, ge_iff_le,
    UInt32.le_iff_toNat_le, Char.reduceVal, UInt32.reduceToNat, Char.toNat_val] at h
  simp only [Char.isDigit, ge_iff_le, UInt32.le_iff_toNat_le, Bool.and_eq_false_iff,
    decide_eq_false_iff_not, Char.reduceVal, UInt32.reduceToNat, Char.toNat_val]
  omega

theorem isNameChar_of_wordChar {c : Char} (h : (c.isAlphanum || c == '_') = true) :
    Text.isNameChar c = true := by
  have hrange := toNat_of_wordChar h
  rw [Text.isNameChar, if_pos (by omega)]
  exact h

/-- What a plain name is made of. -/
theorem exists_of_isPlainName (h : isPlainName s = true) :
    ∃ c cs, s.toList = c :: cs ∧ (c.isAlpha || c == '_') = true ∧
      (∀ d ∈ s.toList, (d.isAlphanum || d == '_') = true) ∧ s ∉ reservedWords := by
  simp only [isPlainName, Bool.and_eq_true, Bool.not_eq_true', List.all_eq_true,
    List.contains_eq_mem, decide_eq_false_iff_not] at h
  obtain ⟨⟨hhead, hall⟩, hfree⟩ := h
  cases hs : s.toList with
  | nil =>
      rw [hs] at hhead
      cases hhead
  | cons c cs =>
      rw [hs] at hhead
      exact ⟨c, cs, rfl, hhead, hs ▸ hall, hfree⟩

/-- A plain name before a blank is read as a name. -/
theorem takeWord?_of_isPlainName (h : isPlainName s = true)
    (hrest : ∀ c ∈ rest.head?, c = ' ') : takeWord? (s.toList ++ rest) = some (.name s, rest) := by
  obtain ⟨c, cs, hs, -, hchars, hfree⟩ := exists_of_isPlainName h
  have hname : ∀ d ∈ s.toList, Text.isNameChar d = true := fun d hd =>
    isNameChar_of_wordChar (hchars d hd)
  have hstop : rest.takeWhile Text.isNameChar = [] ∧ rest.dropWhile Text.isNameChar = rest := by
    cases rest with
    | nil => exact ⟨rfl, rfl⟩
    | cons d ds =>
        cases hrest d rfl
        exact ⟨List.takeWhile_cons_of_neg (by decide), List.dropWhile_cons_of_neg (by decide)⟩
  have hquote : (rest.head?.any fun d => d == '"' || d == '\'') = false := by
    cases rest with
    | nil => rfl
    | cons d ds =>
        cases hrest d rfl
        rfl
  have hplain : Text.normalForm s.toList = s.toList :=
    Text.normalForm_of_plain fun d hd => by
      have hrange := toNat_of_wordChar (hchars d hd)
      omega
  unfold takeWord?
  simp only [List.takeWhile_append_of_pos hname, List.dropWhile_append_of_pos hname, hstop.1,
    hstop.2, List.append_nil, hquote, Bool.and_false, String.ofList_toList, hplain,
    List.contains_eq_mem, hfree, decide_false]
  rfl

/-- A character that starts no blank, comment or line is the first one of a word. -/
theorem tokensFrom_word {fuel : Nat} {c : Char} {cs tail : List Char} {token : Token}
    (hc : c ∉ [' ', '\t', '\x0c', '#', '\n', '\\'])
    (htake : takeToken? (c :: cs) = some (token, tail)) (hdepth : depthAfter 0 token = 0)
    (fresh : Bool) :
    tokensFrom (fuel + 1) 0 fresh false (c :: cs) =
      (tokensFrom fuel 0 false false tail).map (token :: ·) := by
  simp only [List.mem_cons, List.not_mem_nil, or_false, not_or] at hc
  rw [tokensFrom.eq_def]
  simp [hc, htake, hdepth]

theorem tokensFrom_name (h : isPlainName s = true) (hrest : ∀ c ∈ rest.head?, c = ' ')
    (fuel : Nat) (fresh : Bool) :
    tokensFrom (fuel + 1) 0 fresh false (s.toList ++ rest) =
      (tokensFrom fuel 0 false false rest).map (.name s :: ·) := by
  obtain ⟨c, cs, hs, hstart, hchars, -⟩ := exists_of_isPlainName h
  have hword := takeWord?_of_isPlainName h hrest
  have hrange := toNat_of_wordChar (hchars c (hs ▸ List.mem_cons_self))
  rw [hs, List.cons_append] at hword ⊢
  refine tokensFrom_word ?_ ?_ rfl fresh
  · simp only [List.mem_cons, List.not_mem_nil, or_false, not_or]
    refine ⟨?_, ?_, ?_, ?_, ?_, ?_⟩ <;> rintro rfl <;> revert hstart <;> decide
  · have hdigit : c.isDigit = false := by
      rw [Bool.or_eq_true, beq_iff_eq] at hstart
      rcases hstart with hstart | rfl
      · exact isDigit_of_isAlpha hstart
      · rfl
    have hpoint : c ≠ '.' := by rintro rfl; revert hstart; decide
    have hquote : c ≠ '"' ∧ c ≠ '\'' := by
      constructor <;> rintro rfl <;> revert hstart <;> decide
    have hname : Text.isNameStart c = true := by
      rw [Text.isNameStart, if_pos (by omega)]
      exact hstart
    simp [takeToken?, hdigit, hpoint, hquote, hname, hword]

/-- A sign of an operation between blanks is read as its mark. -/
theorem tokensFrom_sign {op : Operator} (h : (sign, op) ∈ Operator.signs) (fuel : Nat) :
    tokensFrom (fuel + 3) 0 false false (' ' :: (sign.toList ++ ' ' :: rest)) =
      (tokensFrom fuel 0 false false rest).map (.mark sign :: ·) := by
  have hblank (fuel : Nat) (cs : List Char) :
      tokensFrom (fuel + 1) 0 false false (' ' :: cs) = tokensFrom fuel 0 false false cs := by
    rw [tokensFrom.eq_def]
    simp
  simp only [Operator.signs, List.mem_cons, Prod.mk.injEq, List.not_mem_nil, or_false] at h
  rw [hblank]
  rcases h with ⟨rfl, -⟩ | ⟨rfl, -⟩ | ⟨rfl, -⟩ | ⟨rfl, -⟩ | ⟨rfl, -⟩ <;>
  · refine (tokensFrom_word (by decide) rfl rfl false).trans ?_
    exact congrArg _ (hblank _ _)

/-- What follows a name in a chain starts with a blank. -/
theorem head?_chain (sign : String) (names : List String) :
    ∀ c ∈ (names.flatMap fun s => ' ' :: (sign.toList ++ ' ' :: s.toList)).head?, c = ' ' := by
  cases names with
  | nil => rintro _ ⟨⟩
  | cons t names =>
      rintro _ ⟨⟩
      rfl

/-- Each further name of a chain takes four steps: a blank, the sign, a blank and the name. -/
theorem tokensFrom_chain {op : Operator} (hsign : (sign, op) ∈ Operator.signs)
    {names : List String} (hnames : ∀ s ∈ names, isPlainName s = true) (fuel : Nat) :
    tokensFrom (fuel + 4 * names.length + 1) 0 false false
        (names.flatMap fun s => ' ' :: (sign.toList ++ ' ' :: s.toList)) =
      some (chainWords sign names ++ [.lineEnd]) := by
  induction names with
  | nil => rfl
  | cons s names ih =>
      rw [List.forall_mem_cons] at hnames
      have hword :=
        tokensFrom_name hnames.1 (head?_chain sign names) (fuel + 4 * names.length + 1) false
      rw [ih hnames.2] at hword
      rw [List.flatMap_cons, List.cons_append, List.append_assoc, List.cons_append,
        List.length_cons]
      rw [show fuel + 4 * (names.length + 1) + 1 = fuel + 4 * names.length + 1 + 1 + 3 by omega]
      rw [tokensFrom_sign hsign, hword]
      rfl

theorem toList_chainText (sign s : String) (names : List String) :
    (chainText sign (s :: names)).toList =
      s.toList ++ names.flatMap fun t => ' ' :: (sign.toList ++ ' ' :: t.toList) := by
  rw [chainText, String.toList_intercalate]
  induction names generalizing s with
  | nil => simp
  | cons t names ih =>
      rw [List.map_cons, List.map_cons, List.intercalate_cons_cons, ← List.map_cons, ih,
        List.flatMap_cons]
      simp

theorem joinLineEnds_eq_self {cs : List Char} (h : '\r' ∉ cs) : joinLineEnds cs = cs := by
  induction cs with
  | nil => rfl
  | cons c cs ih =>
      rw [List.mem_cons, not_or] at h
      rw [joinLineEnds, ih h.2]
      · rintro _ rfl
        exact absurd rfl h.1
      · rintro rfl
        exact absurd rfl h.1

/-- A chain is written in characters that are no marks of the end of a line or a text. -/
theorem le_toNat_of_mem_chainText {op : Operator} (hsign : (sign, op) ∈ Operator.signs)
    {names : List String} (hnames : ∀ t ∈ names, isPlainName t = true) {c : Char}
    (hc : c ∈ (chainText sign names).toList) : 32 ≤ c.toNat := by
  have hname : ∀ t ∈ names, ∀ d ∈ t.toList, 32 ≤ d.toNat := fun t ht d hd => by
    obtain ⟨-, -, -, -, hchars, -⟩ := exists_of_isPlainName (hnames t ht)
    have hrange := toNat_of_wordChar (hchars d hd)
    omega
  have hmark : ∀ d ∈ sign.toList, 32 ≤ d.toNat := by
    have hall : (Operator.signs.all fun e => e.1.toList.all fun d => decide (32 ≤ d.toNat)) = true :=
      rfl
    intro d hd
    exact of_decide_eq_true (List.all_eq_true.1 (List.all_eq_true.1 hall _ hsign) d hd)
  cases names with
  | nil => cases hc
  | cons s names =>
      rw [toList_chainText, List.mem_append, List.mem_flatMap] at hc
      rcases hc with hc | ⟨t, ht, hc⟩
      · exact hname s List.mem_cons_self c hc
      · rw [List.mem_cons, List.mem_append, List.mem_cons] at hc
        rcases hc with rfl | hc | rfl | hc
        · decide
        · exact hmark c hc
        · decide
        · exact hname t (List.mem_cons_of_mem s ht) c hc

/-- There are enough characters in a chain to read it word by word. -/
theorem length_le_of_chain {op : Operator} (hsign : (sign, op) ∈ Operator.signs)
    {names : List String} (hnames : ∀ t ∈ names, isPlainName t = true) :
    4 * names.length ≤
      (names.flatMap fun t => ' ' :: (sign.toList ++ ' ' :: t.toList)).length := by
  have hmark : sign.toList.length = 1 := by
    have hall : ∀ e ∈ Operator.signs, e.1.toList.length = 1 := by decide
    exact hall _ hsign
  induction names with
  | nil => exact Nat.zero_le _
  | cons t names ih =>
      rw [List.forall_mem_cons] at hnames
      obtain ⟨c, cs, ht, -⟩ := exists_of_isPlainName hnames.1
      have hrest := ih hnames.2
      rw [List.flatMap_cons, List.length_append, ht]
      simp only [List.length_cons, List.length_append, hmark]
      omega

/-- The words of a chain are its names with the signs between them. -/
theorem tokens?_chainText {op : Operator} (hsign : (sign, op) ∈ Operator.signs)
    {names : List String} (hnames : ∀ t ∈ s :: names, isPlainName t = true) :
    tokens? (chainText sign (s :: names)).toList =
      some (.name s :: (chainWords sign names ++ [.lineEnd])) := by
  have hchars := fun c => @le_toNat_of_mem_chainText sign op hsign _ hnames c
  have hnul : (chainText sign (s :: names)).toList.contains '\x00' = false := by
    rw [List.contains_eq_mem, decide_eq_false_iff_not]
    exact fun h => absurd (hchars _ h) (by decide)
  have hreturn : '\r' ∉ (chainText sign (s :: names)).toList := fun h =>
    absurd (hchars _ h) (by decide)
  rw [List.forall_mem_cons] at hnames
  obtain ⟨c, cs, hs, -⟩ := exists_of_isPlainName hnames.1
  have hlength := length_le_of_chain hsign hnames.2
  unfold tokens?
  rw [hnul, if_neg Bool.false_ne_true]
  dsimp only
  rw [joinLineEnds_eq_self hreturn, toList_chainText]
  rw [tokensFrom_name hnames.1 (head?_chain _ names)]
  obtain ⟨fuel, hfuel⟩ := Nat.exists_eq_add_of_le hlength
  rw [List.length_append, hs, List.length_cons, hfuel,
    show cs.length + 1 + (4 * names.length + fuel) = cs.length + fuel + 4 * names.length + 1 by
      omega, tokensFrom_chain hsign hnames.2]
  rfl

end Words

section Reading

variable {ts rest : List Token} {e : Expr} {s sign : String}

/-- An operand is one of each looser level too, unless an operator of the level follows. -/
theorem takeOperand_of_succ {fuel level : Nat} (hnot : takeReserved "not" ts = none)
    (hlevel : level < 10) (h : takeOperand fuel (level + 1) ts = some (e, rest))
    (hrest : takeOperator level rest = none) :
    takeOperand (fuel + 1) level ts = some (e, rest) := by
  cases fuel with
  | zero => cases h
  | succ fuel =>
      have hchain : takeChain (fuel + 1) level e rest = some (e, rest) := by
        rw [takeChain, hrest]
      by_cases htwo : level = 2
      · subst htwo
        rw [takeOperand.eq_def]
        simp [hnot, h]
      · rw [takeOperand.eq_def]
        simp [htwo, h, hchain, show level ≠ 10 by omega, show level ≠ 11 by omega]

theorem takeOperand_of_add {fuel level : Nat} (hnot : takeReserved "not" ts = none) (k : Nat)
    (hlevel : level + k ≤ 10) (h : takeOperand fuel (level + k) ts = some (e, rest))
    (hrest : ∀ l, level ≤ l → l < level + k → takeOperator l rest = none) :
    takeOperand (fuel + k) level ts = some (e, rest) := by
  induction k generalizing level with
  | zero => exact h
  | succ k ih =>
      have hnext : takeOperand (fuel + k) (level + 1) ts = some (e, rest) :=
        ih (by omega) (by rwa [Nat.add_right_comm]) fun l hl hlt => hrest l (by omega) (by omega)
      exact takeOperand_of_succ hnot (by omega) hnext (hrest level (Nat.le_refl _) (by omega))

/-- The level of binding of an operation. -/
def Operator.level : Operator → Nat
  | add | sub => 8
  | mul | div | mod => 9

theorem takeOperator_lineEnd (level : Nat) : takeOperator level [.lineEnd] = none := by
  rw [takeOperator.eq_def]
  split <;> simp_all

theorem Operator.le_level (op : Operator) : 8 ≤ op.level := by cases op <;> decide

theorem Operator.level_lt (op : Operator) : op.level < 10 := by cases op <;> decide

/-- The sign of an operation is an operator of its level alone. -/
theorem takeOperator_mark {op : Operator} (hsign : (sign, op) ∈ Operator.signs) {level : Nat}
    (hlow : 8 ≤ level) (hhigh : level < 10) (rest : List Token) :
    takeOperator level (.mark sign :: rest) =
      if level = op.level then some (sign, rest) else none := by
  obtain rfl | rfl : level = 8 ∨ level = 9 := by omega
  all_goals
    simp only [Operator.signs, List.mem_cons, Prod.mk.injEq, List.not_mem_nil, or_false] at hsign
    rcases hsign with ⟨rfl, rfl⟩ | ⟨rfl, rfl⟩ | ⟨rfl, rfl⟩ | ⟨rfl, rfl⟩ | ⟨rfl, rfl⟩ <;> rfl

/-- A name in a chain is an operand by itself. -/
theorem takeOperand_name {op : Operator} (hsign : (sign, op) ∈ Operator.signs)
    (names : List String) (fuel : Nat) :
    takeOperand (fuel + 3) 10 (.name s :: (chainWords sign names ++ [.lineEnd])) =
      some (.name s, chainWords sign names ++ [.lineEnd]) := by
  have hrest (fuel : Nat) :
      takeTrailers (fuel + 1) (.name s) (chainWords sign names ++ [.lineEnd]) =
          some (.name s, chainWords sign names ++ [.lineEnd]) ∧
        takeMarkOf "**" (chainWords sign names ++ [.lineEnd]) = none := by
    simp only [Operator.signs, List.mem_cons, Prod.mk.injEq, List.not_mem_nil, or_false] at hsign
    cases names with
    | nil => exact ⟨rfl, rfl⟩
    | cons t names =>
        rcases hsign with ⟨rfl, -⟩ | ⟨rfl, -⟩ | ⟨rfl, -⟩ | ⟨rfl, -⟩ | ⟨rfl, -⟩ <;>
          exact ⟨rfl, rfl⟩
  have hatom (rest : List Token) :
      takeAtom (fuel + 1) (.name s :: rest) = some (.name s, rest) := by
    rw [takeAtom]
  have hoperand : takeOperand (fuel + 2) 11 (.name s :: (chainWords sign names ++ [.lineEnd])) =
      some (.name s, chainWords sign names ++ [.lineEnd]) := by
    rw [takeOperand.eq_def]
    simp [takeReserved, hatom, (hrest fuel).1]
  rw [takeOperand.eq_def]
  simp [hoperand, (hrest fuel).2]

/-- An operator that binds closer than those of a chain does not stand in it. -/
theorem takeOperator_chain {op : Operator} (hsign : (sign, op) ∈ Operator.signs)
    (names : List String) {level : Nat} (hlow : op.level < level) (hhigh : level < 10) :
    takeOperator level (chainWords sign names ++ [.lineEnd]) = none := by
  cases names with
  | nil => exact takeOperator_lineEnd level
  | cons t names =>
      exact (takeOperator_mark hsign (op.le_level.trans (Nat.le_of_lt hlow)) hhigh _).trans
        (if_neg (Nat.ne_of_gt hlow))

/-- Between two operators of a chain stands a name alone. -/
theorem takeOperand_link {op : Operator} (hsign : (sign, op) ∈ Operator.signs)
    (names : List String) (fuel : Nat) :
    takeOperand (fuel + 4) (op.level + 1) (.name s :: (chainWords sign names ++ [.lineEnd])) =
      some (.name s, chainWords sign names ++ [.lineEnd]) := by
  have hname := @takeOperand_name s sign op hsign names
  cases op with
  | add | sub =>
      exact takeOperand_of_add rfl 1 (Nat.le_refl _) (hname fuel)
        fun l hl hlt => takeOperator_chain hsign names hl hlt
  | mul | div | mod => exact hname (fuel + 1)

/-- The further operands of a chain are taken from the left, one after the other. -/
theorem takeChain_chain {op : Operator} (hsign : (sign, op) ∈ Operator.signs)
    (names : List String) (left : Expr) (fuel : Nat) :
    takeChain (fuel + names.length + 5) op.level left (chainWords sign names ++ [.lineEnd]) =
      some (chainFrom op left names, [.lineEnd]) := by
  induction names generalizing left with
  | nil =>
      rw [takeChain, show chainWords sign [] ++ [.lineEnd] = [.lineEnd] from rfl,
        takeOperator_lineEnd]
      rfl
  | cons t names ih =>
      have hoperator : takeOperator op.level (chainWords sign (t :: names) ++ [.lineEnd]) =
          some (sign, .name t :: (chainWords sign names ++ [.lineEnd])) :=
        (takeOperator_mark hsign op.le_level op.level_lt _).trans (if_pos rfl)
      have hjoin : joinAt op.level sign left (.name t) = .binary op left (.name t) := by
        simp only [Operator.signs, List.mem_cons, Prod.mk.injEq, List.not_mem_nil, or_false]
          at hsign
        rcases hsign with ⟨rfl, rfl⟩ | ⟨rfl, rfl⟩ | ⟨rfl, rfl⟩ | ⟨rfl, rfl⟩ | ⟨rfl, rfl⟩ <;> rfl
      rw [List.length_cons, ← Nat.add_assoc, Nat.add_right_comm _ 1 5, takeChain, hoperator]
      dsimp only
      rw [takeOperand_link hsign names (fuel + names.length + 1)]
      exact (congrArg (takeChain _ _ · _) hjoin).trans (ih _)

/-- A chain is an operand of every level down from the loosest one. -/
theorem takeOperand_chain {op : Operator} (hsign : (sign, op) ∈ Operator.signs)
    (names : List String) (fuel : Nat) :
    takeOperand (fuel + names.length + 20) 0 (.name s :: (chainWords sign names ++ [.lineEnd])) =
      some (chainFrom op (.name s) names, [.lineEnd]) := by
  have hlevel := op.level_lt
  have hlow := op.le_level
  -- the whole chain is read at its own level, and nothing is left for the looser ones
  have hchain : takeOperand (fuel + names.length + 20 - op.level) (0 + op.level)
      (.name s :: (chainWords sign names ++ [.lineEnd])) =
      some (chainFrom op (.name s) names, [.lineEnd]) := by
    rw [show fuel + names.length + 20 - op.level = fuel + 14 - op.level + names.length + 5 + 1 by
      omega, Nat.zero_add, takeOperand.eq_def]
    have hlink := takeOperand_link hsign (s := s) names (fuel + 15 - op.level + names.length)
    have hfurther := takeChain_chain hsign names (.name s) (fuel + 14 - op.level)
    rw [show fuel + 15 - op.level + names.length + 4 =
      fuel + 14 - op.level + names.length + 5 by omega] at hlink
    simp [show op.level ≠ 2 by omega, show op.level ≠ 10 by omega, show op.level ≠ 11 by omega,
      hlink, hfurther]
  have hdown := takeOperand_of_add rfl op.level (by omega) hchain
    fun l _ _ => takeOperator_lineEnd l
  rwa [Nat.sub_add_cancel (by omega)] at hdown

theorem length_le_length_chainText {op : Operator} (hsign : (sign, op) ∈ Operator.signs)
    {names : List String} (hnames : ∀ t ∈ names, isPlainName t = true) :
    names.length ≤ (chainText sign (s :: names)).length := by
  have hlength := length_le_of_chain hsign hnames
  rw [← String.length_toList, toList_chainText, List.length_append]
  omega

/-- A chain of names is read as the expression that joins them from the left. -/
theorem ofText?_chainText {op : Operator} (hsign : (sign, op) ∈ Operator.signs)
    {names : List String} (hnames : ∀ t ∈ s :: names, isPlainName t = true) :
    Expr.ofText? (chainText sign (s :: names)) = some (chainFrom op (.name s) names) := by
  have htokens := tokens?_chainText hsign hnames
  rw [List.forall_mem_cons] at hnames
  have hlength := @length_le_length_chainText s sign op hsign names hnames.2
  obtain ⟨fuel, hfuel⟩ : ∃ fuel, 20 * ((chainText sign (s :: names)).length + 2) =
      fuel + names.length + 20 + 1 :=
    ⟨20 * ((chainText sign (s :: names)).length + 2) - names.length - 21, by omega⟩
  have hexpression : takeExpression (fuel + names.length + 20 + 1)
      (.name s :: (chainWords sign names ++ [.lineEnd])) =
      some (chainFrom op (.name s) names, [.lineEnd]) := by
    rw [takeExpression]
    simp [takeReserved, takeOperand_chain hsign]
  unfold Expr.ofText?
  simp [htokens, hfuel, hexpression]

end Reading

section Value

variable {s sign : String} {op : Operator} {cells : List (String × Value)}

/-- A chain behind an operand has the value to which its operands are joined from the left. -/
theorem eval_chainFrom_eq_ok {numberOf : String → Attempt Numeral} {names : List String}
    (hnames : ∀ t ∈ names, (Expr.name t).eval cells = numberOf t) {left : Expr} {v : Numeral} :
    (chainFrom op left names).eval cells = .ok v ↔
      ∃ a numbers, left.eval cells = .ok a ∧ names.mapM numberOf = .ok numbers ∧
        numbers.foldlM op.apply a = .ok v := by
  induction names generalizing left with
  | nil =>
      constructor
      · intro h
        exact ⟨v, [], h, rfl, rfl⟩
      · rintro ⟨a, numbers, ha, ⟨⟩, ⟨⟩⟩
        exact ha
  | cons t names ih =>
      rw [List.forall_mem_cons] at hnames
      rw [show chainFrom op left (t :: names) = chainFrom op (.binary op left (.name t)) names from
        rfl, ih hnames.2]
      simp only [mapM_cons_eq_ok, Expr.eval.eq_3, hnames.1, bind_eq_ok]
      constructor
      · rintro ⟨c, numbers, ⟨a, ha, b, hb, hc⟩, hnumbers, hv⟩
        refine ⟨a, b :: numbers, ha, ⟨b, numbers, hb, hnumbers, rfl⟩, ?_⟩
        rw [List.foldlM_cons, bind_eq_ok]
        exact ⟨c, hc, hv⟩
      · rintro ⟨a, _, ha, ⟨b, numbers, hb, hnumbers, rfl⟩, hv⟩
        rw [List.foldlM_cons, bind_eq_ok] at hv
        obtain ⟨c, hc, hv⟩ := hv
        exact ⟨c, numbers, ⟨a, ha, b, hb, hc⟩, hnumbers, hv⟩

/-- The entry that each of some keys has is that of the key. -/
theorem get?_map_of_mem {α : Type} (cell : String → α) {keys : List String} {key : String}
    (h : key ∈ keys) :
    Entries.get? key (keys.map fun other => (other, cell other)) = some (cell key) := by
  induction keys with
  | nil => cases h
  | cons other keys ih =>
      rw [List.map_cons, Entries.get?_cons]
      by_cases hother : other = key
      · rw [if_pos hother, hother]
      · rw [if_neg hother]
        exact ih ((List.mem_cons.1 h).resolve_left (Ne.symm hother))

/-- The name of a source field has the number of its cell. -/
theorem eval_name_of_mem (row : List (String × Value)) {fields : List String} {t : String}
    (h : t ∈ fields) :
    (Expr.name t).eval (Entries.ofList (fields.map fun field => (field, cellAt row field))) =
      toNumber (cellAt row t) := by
  rw [Expr.eval, Entries.get?_ofList, ← List.map_reverse,
    get?_map_of_mem (cellAt row) (List.mem_reverse.2 h)]

end Value

section Logic

variable {sign : String} {op : Operator}

theorem toList_chainText_cons_cons (sign s t : String) (names : List String) :
    (chainText sign (s :: t :: names)).toList =
      s.toList ++ ' ' :: (sign.toList ++ ' ' :: (chainText sign (t :: names)).toList) := by
  rw [toList_chainText, toList_chainText, List.flatMap_cons, List.cons_append, List.append_assoc,
    List.cons_append]

theorem getLast?_chainText (sign s : String) (names : List String)
    (h : ∀ t ∈ s :: names, isPlainName t = true) :
    ∀ c ∈ (chainText sign (s :: names)).toList.getLast?, (c.isAlphanum || c == '_') = true := by
  induction names generalizing s with
  | nil =>
      obtain ⟨-, -, -, -, hchars, -⟩ := exists_of_isPlainName (h s List.mem_cons_self)
      rw [toList_chainText, List.flatMap_nil, List.append_nil]
      exact fun c hc => hchars c (List.mem_of_mem_getLast? hc)
  | cons t names ih =>
      have hrest := ih t (List.forall_mem_cons.1 h).2
      obtain ⟨c, cs, ht, -⟩ :=
        exists_of_isPlainName (h t (List.mem_cons_of_mem _ List.mem_cons_self))
      have hne : (chainText sign (t :: names)).toList ≠ [] := by
        rw [toList_chainText, ht]
        exact List.cons_ne_nil _ _
      rw [toList_chainText_cons_cons, List.getLast?_append_of_ne_nil _ (List.cons_ne_nil _ _),
        ← List.cons_append, List.getLast?_append_of_ne_nil _ (List.cons_ne_nil _ _),
        List.getLast?_cons_of_ne_nil hne]
      exact hrest

theorem isBlank_of_wordChar {c : Char} (h : (c.isAlphanum || c == '_') = true) :
    Text.isBlank c = false := by
  have hrange := toNat_of_wordChar h
  simp only [Text.isBlank, Bool.or_eq_false_iff, Bool.and_eq_false_iff,
    decide_eq_false_iff_not, beq_eq_false_iff_ne]
  omega

theorem strip_chainText (sign s : String) {names : List String}
    (h : ∀ t ∈ s :: names, isPlainName t = true) :
    Text.strip (chainText sign (s :: names)) = chainText sign (s :: names) := by
  obtain ⟨c, cs, hs, -, hchars, -⟩ := exists_of_isPlainName (h s List.mem_cons_self)
  have hlast := getLast?_chainText sign s names h
  rw [Text.strip, Text.trimBy_eq_self_of_ends, String.ofList_toList]
  · rw [toList_chainText, hs, List.cons_append]
    rintro _ ⟨⟩
    exact isBlank_of_wordChar (hchars c (hs ▸ List.mem_cons_self))
  · exact fun d hd => isBlank_of_wordChar (hlast d hd)

theorem blank_mem_chainText (sign s t : String) (names : List String) :
    ' ' ∈ (chainText sign (s :: t :: names)).toList := by
  rw [toList_chainText_cons_cons]
  exact List.mem_append_right _ List.mem_cons_self

theorem blank_mem_lower {s : String} (h : ' ' ∈ s.toList) : ' ' ∈ (Text.lower s).toList := by
  rw [Text.lower, String.toList_ofList]
  generalize [] = before
  generalize s.toList = cs at h
  induction cs generalizing before with
  | nil => cases h
  | cons c cs ih =>
      rw [Text.lowerFrom, List.mem_append]
      rcases List.mem_cons.1 h with rfl | h
      · exact Or.inl List.mem_cons_self
      · exact Or.inr (ih _ h)

theorem get?_eq_none_of_blank {α : Type} {entries : List (String × α)}
    (hentries : ∀ e ∈ entries, ' ' ∉ e.1.toList) {key : String} (h : ' ' ∈ key.toList) :
    Entries.get? key entries = none := by
  cases hkey : Entries.get? key entries with
  | none => rfl
  | some a => exact absurd h (hentries _ (Entries.mem_of_get?_eq_some hkey))

end Logic

/-- Whether a cell is what the numbers of some fields, joined from the left, come to. -/
def JoinsTo (op : Operator) (row : List (String × Value)) (s : String) (names : List String)
    (v : Value) : Prop :=
  ∃ a numbers result, toNumber (cellAt row s) = .ok a ∧
    names.mapM (fun t => toNumber (cellAt row t)) = .ok numbers ∧
      numbers.foldlM op.apply a = .ok result ∧ tidyCell result = v

section Forms

variable {f : FormulaSpec} {row : List (String × Value)} {sign s : String} {op : Operator}
  {v : Value}

theorem compute_sign_eq_ok_iff (hsign : (sign, op) ∈ Operator.signs) {names : List String}
    (hfields : f.sourceFields = s :: names) :
    compute { f with logic := sign } row = .ok v ↔ JoinsTo op row s names v := by
  have hlogic : Text.strip sign = sign ∧ Entries.get? sign Operator.signs = some op := by
    simp only [Operator.signs, List.mem_cons, Prod.mk.injEq, List.not_mem_nil, or_false] at hsign
    rcases hsign with ⟨rfl, rfl⟩ | ⟨rfl, rfl⟩ | ⟨rfl, rfl⟩ | ⟨rfl, rfl⟩ | ⟨rfl, rfl⟩ <;>
      decide
  unfold compute
  dsimp only
  rw [hlogic.1, hlogic.2, hfields]
  dsimp only
  rw [if_neg (by simp), List.mapM_map]
  simp only [bind_eq_ok, mapM_cons_eq_ok, Function.comp_apply]
  constructor
  · rintro ⟨_, ⟨a, numbers, ha, hnumbers, rfl⟩, result?, hjoined, hv⟩
    obtain ⟨result, hresult, heq⟩ := bind_eq_ok.1 hjoined
    cases pure_eq_ok.1 heq
    exact ⟨a, numbers, result, ha, hnumbers, hresult, Except.ok.inj hv⟩
  · rintro ⟨a, numbers, result, ha, hnumbers, hresult, rfl⟩
    exact ⟨_, ⟨a, numbers, ha, hnumbers, rfl⟩, some result,
      bind_eq_ok.2 ⟨result, hresult, rfl⟩, rfl⟩

theorem compute_chainText_eq_ok_iff (hsign : (sign, op) ∈ Operator.signs) {t : String}
    {names : List String} (hfields : f.sourceFields = s :: t :: names)
    (hnames : ∀ s ∈ f.sourceFields, isPlainName s = true) :
    compute { f with logic := chainText sign f.sourceFields } row = .ok v ↔
      JoinsTo op row s (t :: names) v := by
  have hblank := blank_mem_chainText sign s t names
  have hsigns : Entries.get? (chainText sign (s :: t :: names)) Operator.signs = none :=
    get?_eq_none_of_blank (by decide) hblank
  have hsummary :
      Entries.get? (Text.lower (chainText sign (s :: t :: names))) Summary.names = none :=
    get?_eq_none_of_blank (by decide) (blank_mem_lower hblank)
  rw [hfields] at hnames
  have heval := fun u (hu : u ∈ s :: t :: names) => eval_name_of_mem row hu
  unfold compute evaluateExpression
  dsimp only
  rw [hfields, strip_chainText sign s hnames, hsigns]
  dsimp only
  rw [hsummary]
  dsimp only
  rw [strip_chainText sign s hnames, ofText?_chainText hsign hnames]
  simp only [bind_eq_ok, pure_eq_ok,
    eval_chainFrom_eq_ok fun u hu => heval u (List.mem_cons_of_mem s hu),
    heval s List.mem_cons_self]
  constructor
  · rintro ⟨result, ⟨a, numbers, ha, hnumbers, hresult⟩, hv⟩
    exact ⟨a, numbers, result, ha, hnumbers, hresult, hv⟩
  · rintro ⟨a, numbers, result, ha, hnumbers, hresult, hv⟩
    exact ⟨result, ⟨a, numbers, ha, hnumbers, hresult⟩, hv⟩

end Forms

/-- A formula over two plain names or more comes to the same with the sign of an operation and with
the chain of its names. -/
theorem compute_chain_eq_ok_iff (f : FormulaSpec) (row : List (String × Value)) (sign : String)
    (hsign : sign ∈ Operator.signs.map Prod.fst)
    (hnames : ∀ s ∈ f.sourceFields, isPlainName s = true) (htwo : 2 ≤ f.sourceFields.length)
    (v : Value) :
    compute { f with logic := sign } row = .ok v ↔
      compute { f with logic := chainText sign f.sourceFields } row = .ok v := by
  obtain ⟨⟨_, op⟩, hop, rfl⟩ := List.mem_map.1 hsign
  obtain ⟨s, t, names, hfields⟩ : ∃ s t names, f.sourceFields = s :: t :: names := by
    match f.sourceFields, htwo with
    | s :: t :: names, _ => exact ⟨s, t, names, rfl⟩
  rw [compute_sign_eq_ok_iff hop hfields, compute_chainText_eq_ok_iff hop hfields hnames]

section Price

/-- A formula over a price and a share that is taken off twice. -/
def priceFormula : FormulaSpec :=
  ⟨"net", none, ["price", "_share2", "_share2"], "+", .beforeSource⟩

def priceRow : List (String × Value) :=
  [("_share2", .text " 7.5 "), ("price", .text "1,000"), ("tax", .null)]

/-- Both forms read a price with a comma and take the share off from the left. -/
theorem compute_chain_eq_ok_iff_price :
    (∀ s ∈ priceFormula.sourceFields, isPlainName s = true) ∧
      compute { priceFormula with logic := "-" } priceRow = .ok (.int 985) ∧
      compute { priceFormula with logic := "price - _share2 - _share2" } priceRow =
        .ok (.int 985) :=
  ⟨by decide, rfl, (compute_chain_eq_ok_iff priceFormula priceRow "-" (by decide) (by decide)
    (by decide) (.int 985)).1 rfl⟩

end Price

end AdminGrid.Formula
