/-!
# Cutting and joining texts

`splitOn` cuts a text at every occurrence of a mark, `cutFirst?` and `cutLast?` at one of them.
Joining the pieces of `splitOn` with the mark gives the text back.
-/

namespace AdminGrid.Text

/-- The pieces of a list between the occurrences of a mark. -/
def splitList (mark : Char) : List Char → List (List Char)
  | [] => [[]]
  | c :: rest =>
      if c = mark then [] :: splitList mark rest
      else match splitList mark rest with
        | [] => [[c]]
        | piece :: pieces => (c :: piece) :: pieces

/-- The pieces of a text between the occurrences of a mark. -/
def splitOn (mark : Char) (s : String) : List String :=
  (splitList mark s.toList).map String.ofList

/-- The parts of a list before and after the first occurrence of a mark. -/
def cutFirstList? (mark : Char) : List Char → Option (List Char × List Char)
  | [] => none
  | c :: rest =>
      if c = mark then some ([], rest)
      else (cutFirstList? mark rest).map fun (before, after) => (c :: before, after)

/-- The parts of a list before and after the last occurrence of a mark. -/
def cutLastList? (mark : Char) : List Char → Option (List Char × List Char)
  | [] => none
  | c :: rest =>
      match cutLastList? mark rest with
      | some (before, after) => some (c :: before, after)
      | none => if c = mark then some ([], rest) else none

/-- The parts of a text before and after the first occurrence of a mark. -/
def cutFirst? (mark : Char) (s : String) : Option (String × String) :=
  (cutFirstList? mark s.toList).map fun (before, after) =>
    (String.ofList before, String.ofList after)

/-- The parts of a text before and after the last occurrence of a mark. -/
def cutLast? (mark : Char) (s : String) : Option (String × String) :=
  (cutLastList? mark s.toList).map fun (before, after) =>
    (String.ofList before, String.ofList after)

/-- What stands after the last occurrence of a mark, or the whole text without one. -/
def afterLast (mark : Char) (s : String) : String :=
  ((cutLast? mark s).map (·.2)).getD s

/-- A text with every occurrence of a character replaced by a text. -/
def replaceChar (mark : Char) (by_ : String) (s : String) : String :=
  String.ofList (s.toList.flatMap fun c => if c = mark then by_.toList else [c])

/-- What follows a beginning in a list that starts with it. -/
def dropHead? : List Char → List Char → Option (List Char)
  | [], cs => some cs
  | _ :: _, [] => none
  | h :: head, c :: cs => if h = c then dropHead? head cs else none

/-- Whether a list holds another one as consecutive characters. -/
def hasPiece (piece : List Char) : List Char → Bool
  | [] => piece.isEmpty
  | c :: cs => (dropHead? piece (c :: cs)).isSome || hasPiece piece cs

/-- Whether a text holds another one. -/
def contains (piece s : String) : Bool :=
  hasPiece piece.toList s.toList

/-- Whether a text starts with another one. -/
def startsWith (head s : String) : Bool :=
  (dropHead? head.toList s.toList).isSome

/-- Whether a text ends with another one. -/
def endsWith (tail s : String) : Bool :=
  (dropHead? tail.toList.reverse s.toList.reverse).isSome

/-- A text without an ending that it has. -/
def dropTail? (tail s : String) : Option String :=
  (dropHead? tail.toList.reverse s.toList.reverse).map fun rest => String.ofList rest.reverse

theorem splitList_ne_nil (mark : Char) (cs : List Char) : splitList mark cs ≠ [] := by
  cases cs with
  | nil => simp [splitList]
  | cons c cs =>
      by_cases h : c = mark
      · simp [splitList, h]
      · simp only [splitList, h, if_false]
        split <;> simp

theorem intercalate_splitList (mark : Char) (cs : List Char) :
    [mark].intercalate (splitList mark cs) = cs := by
  induction cs with
  | nil => simp [splitList, List.intercalate]
  | cons c cs ih =>
      by_cases h : c = mark
      · subst h
        cases hs : splitList c cs with
        | nil => exact absurd hs (splitList_ne_nil c cs)
        | cons piece pieces =>
            rw [hs] at ih
            simp [splitList, hs, List.intercalate] at ih ⊢
            cases pieces <;> simp_all
      · cases hs : splitList mark cs with
        | nil => exact absurd hs (splitList_ne_nil mark cs)
        | cons piece pieces =>
            rw [hs] at ih
            cases pieces <;> simp_all [splitList, List.intercalate, List.intersperse]

theorem dropHead?_eq_some_iff {head cs rest : List Char} :
    dropHead? head cs = some rest ↔ cs = head ++ rest := by
  induction head generalizing cs with
  | nil => simp [dropHead?, eq_comm]
  | cons h head ih =>
      cases cs with
      | nil => simp [dropHead?]
      | cons c cs =>
          by_cases hc : h = c
          · simp [dropHead?, hc, ih]
          · simp [dropHead?, hc, Ne.symm hc]

theorem endsWith_append (s tail : String) : endsWith tail (s ++ tail) = true := by
  rw [endsWith, String.toList_append, List.reverse_append, dropHead?_eq_some_iff.2 rfl]
  rfl

end AdminGrid.Text
