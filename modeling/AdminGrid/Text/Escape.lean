/-!
# Texts in markup

The five characters that markup gives a meaning to are written as entities, so that a text cannot
be taken for markup.
-/

namespace AdminGrid.Text

/-- A character as it stands in markup. -/
def escapeChar (c : Char) : List Char :=
  if c = '&' then "&amp;".toList
  else if c = '<' then "&lt;".toList
  else if c = '>' then "&gt;".toList
  else if c = '"' then "&quot;".toList
  else if c = '\'' then "&#x27;".toList
  else [c]

/-- A text as it stands in markup. -/
def escape (s : String) : String :=
  String.ofList (s.toList.flatMap escapeChar)

theorem not_mem_escapeChar {c m : Char} (h : m ∈ ['<', '>', '"', '\'']) : m ∉ escapeChar c := by
  simp only [List.mem_cons, List.not_mem_nil, or_false] at h
  unfold escapeChar
  rcases h with rfl | rfl | rfl | rfl <;> repeat' split
  all_goals simp_all [eq_comm]

end AdminGrid.Text
