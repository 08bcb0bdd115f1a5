/-!
# Blanks

A blank is a character that separates words: the ASCII blanks, the four information separators,
the next-line mark and the spaces of all scripts.  `strip` drops the blanks at both ends of a text,
and what is left starts and ends with a character that is no blank.
-/

namespace AdminGrid.Text

/-- Whether a character is a blank. -/
def isBlank (c : Char) : Bool :=
  let n := c.toNat
  (9 ≤ n && n ≤ 13) || (28 ≤ n && n ≤ 32) || n == 133 || n == 160 || n == 5760 ||
    (8192 ≤ n && n ≤ 8202) || n == 8232 || n == 8233 || n == 8239 || n == 8287 || n == 12288

/-- Whether a character is one of the six ASCII blanks. -/
def isPlainBlank (c : Char) : Bool :=
  (9 ≤ c.toNat && c.toNat ≤ 13) || c.toNat == 32

/-- Drops the characters of a class from the end of a list. -/
def dropEndWhile (p : Char → Bool) (cs : List Char) : List Char :=
  cs.foldr (fun c rest => if rest.isEmpty && p c then [] else c :: rest) []

/-- Drops the characters of a class from both ends of a list. -/
def trimBy (p : Char → Bool) (cs : List Char) : List Char :=
  dropEndWhile p (cs.dropWhile p)

/-- A text without the blanks at its two ends. -/
def strip (s : String) : String :=
  String.ofList (trimBy isBlank s.toList)

/-- A text without the given character at its end. -/
def stripEnd (mark : Char) (s : String) : String :=
  String.ofList (dropEndWhile (· == mark) s.toList)

/-- A text without the given character at its start. -/
def stripStart (mark : Char) (s : String) : String :=
  String.ofList (s.toList.dropWhile (· == mark))

theorem isBlank_of_isWhitespace {c : Char} (h : c.isWhitespace = true) : isBlank c = true := by
  simp only [Char.isWhitespace, Bool.or_eq_true, decide_eq_true_eq] at h
  rcases h with ((h | h) | h) | h <;> subst h <;> decide

theorem dropEndWhile_append_singleton (p : Char → Bool) (cs : List Char) (c : Char)
    (h : p c = false) : dropEndWhile p (cs ++ [c]) = cs ++ [c] := by
  induction cs with
  | nil => simp [dropEndWhile, h]
  | cons d cs ih =>
      have ih' : List.foldr (fun c rest => if rest.isEmpty && p c then [] else c :: rest) []
          (cs ++ [c]) = cs ++ [c] := ih
      simp only [dropEndWhile, List.cons_append, List.foldr_cons]
      rw [ih']
      simp

theorem dropEndWhile_append_singleton_of_mem (p : Char → Bool) (cs : List Char) (c : Char)
    (h : p c = true) : dropEndWhile p (cs ++ [c]) = dropEndWhile p cs := by
  simp [dropEndWhile, List.foldr_append, h]

end AdminGrid.Text
