/-!
# Text patterns

In a pattern `%` stands for any characters and `_` for any one; every other character stands for
itself, ASCII letters for both of their forms.
-/

namespace AdminGrid.Store

/-- A text with its ASCII letters small. -/
def lowerAscii (s : String) : String := String.ofList (s.toList.map Char.toLower)

/-- Whether a list of characters fits a pattern. -/
def fits : List Char → List Char → Bool
  | [], cs => cs.isEmpty
  | '%' :: pattern, [] => fits pattern []
  | '%' :: pattern, c :: cs => fits pattern (c :: cs) || fits ('%' :: pattern) cs
  | '_' :: pattern, cs => match cs with
    | [] => false
    | _ :: cs => fits pattern cs
  | p :: pattern, cs => match cs with
    | [] => false
    | c :: cs => p.toLower == c.toLower && fits pattern cs
  termination_by pattern cs => pattern.length + cs.length

/-- The characters of a text up to the first null character, where a pattern ends. -/
def patternChars (s : String) : List Char := s.toList.takeWhile (· != '\x00')

/-- Whether a text fits a pattern. -/
def like (pattern s : String) : Bool := fits (patternChars pattern) (patternChars s)

end AdminGrid.Store
