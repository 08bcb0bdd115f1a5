import AdminGrid.Number.Numeral
import AdminGrid.Text.NameChar
import AdminGrid.Text.Normal

/-!
# The words of expressions

An expression is read as a list of tokens: names, reserved words, numbers, quoted texts and marks.
A line ends an expression unless a bracket is open, a `#` starts a comment, and a backslash at the
end of a line joins it with the next one.
-/

namespace AdminGrid.Formula

/-- A token of an expression. -/
inductive Token where
  | number (n : Numeral)
  /-- A number with the mark of the imaginary unit. -/
  | imaginary
  | name (s : String)
  | reserved (s : String)
  /-- A quoted text; `body` is kept of a text with replacement fields. -/
  | quotedText (isBytes : Bool) (body : Option (List Char))
  | mark (s : String)
  | lineEnd
  deriving DecidableEq

/-- The words that cannot be names. -/
def reservedWords : List String :=
  ["False", "None", "True", "and", "as", "assert", "async", "await", "break", "class", "continue",
    "def", "del", "elif", "else", "except", "finally", "for", "from", "global", "if", "import",
    "in", "is", "lambda", "nonlocal", "not", "or", "pass", "raise", "return", "try", "while",
    "with", "yield"]

/-- The marks, longer ones before those they start with. -/
def marks : List String :=
  ["**=", "//=", ">>=", "<<=", "...", "**", "//", ">>", "<<", "==", "!=", "<=", ">=", "->", ":=",
    "+=", "-=", "*=", "/=", "%=", "@=", "&=", "|=", "^=", "+", "-", "*", "/", "%", "@", "&", "|",
    "^", "~", "<", ">", "(", ")", "[", "]", "\x7b", "\x7d", ",", ":", ".", ";", "="]

/-- Takes digits of a class, single underscores between them dropped, from the front of a list. -/
def takeDigits? (isDigit : Char → Bool) : List Char → Option (List Char × List Char)
  | [] => some ([], [])
  | '_' :: c :: rest =>
      if isDigit c then (takeDigits? isDigit rest).map fun (ds, tail) => (c :: ds, tail) else none
  | ['_'] => none
  | c :: rest =>
      if isDigit c then (takeDigits? isDigit rest).map fun (ds, tail) => (c :: ds, tail)
      else some ([], c :: rest)

/-- Whether what follows a number may stand there: no character of a name, unless it starts one of
the reserved words that can follow a number. -/
def endsNumber (cs : List Char) : Bool :=
  match cs with
  | [] => true
  | c :: rest =>
      let continues (tail : List Char) : Bool := tail.isPrefixOf rest
      (c == 'a' && continues ['n', 'd']) || (c == 'e' && continues ['l', 's', 'e']) ||
        (c == 'f' && continues ['o', 'r']) || (c == 'o' && continues ['r']) ||
        (c == 'n' && continues ['o', 't']) ||
        (c == 'i' && (continues ['f'] || continues ['n'] || continues ['s'])) ||
        !(c.isAlphanum || c == '_' || 128 ≤ c.toNat)

/-- The value of a list of digits in a base. -/
def valueInBase (base : Nat) (ds : List Char) : Nat :=
  ds.foldl (fun n c =>
    let v := if c.isDigit then c.toNat - 48 else (c.toLower).toNat - 87
    n * base + v) 0

/-- Takes a whole number written in a base, after its marker, from the front of a list. -/
def takeBased? (base : Nat) (cs : List Char) : Option (Token × List Char) := do
  let isDigit (c : Char) : Bool :=
    if base = 16 then c.isDigit || ('a' ≤ c.toLower && c.toLower ≤ 'f')
    else '0' ≤ c && c.toNat < 48 + base
  let (ds, rest) ← takeDigits? isDigit cs
  if ds.isEmpty || !endsNumber rest || rest.head?.any Char.isDigit then none
  else some (.number (.int (valueInBase base ds)), rest)

/-- Takes an exponent from the front of a list: its digits with their sign. -/
def takeExponent? (cs : List Char) : Option (Option (Bool × List Char) × List Char) :=
  match cs with
  | c :: rest =>
      if c == 'e' || c == 'E' then
        let (negative, digits) := Reading.splitSign rest
        match digits with
        | d :: _ =>
            if d.isDigit then
              (takeDigits? Char.isDigit digits).map fun (ds, tail) => (some (negative, ds), tail)
            else if digits.length = rest.length then
              if endsNumber cs then some (none, cs) else none
            else none
        | [] => none
      else some (none, cs)
  | [] => some (none, [])

/-- Takes a decimal number from the front of a list that starts with a digit, or with a point and a
digit. -/
def takeDecimal? (cs : List Char) : Option (Token × List Char) := do
  let (whole, rest) ← takeDigits? Char.isDigit cs
  let (point, part, rest) ← match rest with
    | '.' :: rest =>
        match rest with
        | d :: _ =>
            if d.isDigit then
              let (part, tail) ← takeDigits? Char.isDigit rest
              pure (true, part, tail)
            else pure (true, [], rest)
        | [] => pure (true, [], rest)
    | rest => pure (false, [], rest)
  let (exponent, rest) ← takeExponent? rest
  match rest with
  | c :: tail =>
      if c == 'j' || c == 'J' then
        if endsNumber tail then return (.imaginary, tail) else none
  | [] => pure ()
  if !endsNumber rest then none
  else if point || exponent.isSome then
    let (negative, ds) := exponent.getD (false, [])
    let power := Binary64.signed negative (Reading.digitsValue ds) - part.length
    let value := Reading.ofDecimal false (Reading.digitsValue (whole ++ part)) power
    some (.number (.float value), rest)
  else if Reading.maxDigits < whole.length then none
  else if whole.head? == some '0' && whole.any (· != '0') then none
  else some (.number (.int (Reading.digitsValue whole)), rest)

/-- Takes a number from the front of a list. -/
def takeNumber? (cs : List Char) : Option (Token × List Char) :=
  match cs with
  | '0' :: c :: rest =>
      if c == 'x' || c == 'X' then takeBased? 16 rest
      else if c == 'o' || c == 'O' then takeBased? 8 rest
      else if c == 'b' || c == 'B' then takeBased? 2 rest
      else takeDecimal? cs
  | cs => takeDecimal? cs

/-- Takes the body of a quoted text from the front of a list, up to its closing mark.  `tripled`
texts end at three marks and may hold line ends. -/
def takeBody? (mark : Char) (tripled : Bool) : List Char → Option (List Char × List Char)
  | [] => none
  | '\\' :: c :: rest =>
      (takeBody? mark tripled rest).map fun (body, tail) => ('\\' :: c :: body, tail)
  | c :: rest =>
      if c = mark then
        if !tripled then some ([], rest)
        else if [mark, mark].isPrefixOf rest then some ([], rest.drop 2)
        else (takeBody? mark tripled rest).map fun (body, tail) => (c :: body, tail)
      else if c = '\n' && !tripled then none
      else (takeBody? mark tripled rest).map fun (body, tail) => (c :: body, tail)

/-- Whether the escapes of a text's body are well formed. -/
def escapesOk (isBytes : Bool) : List Char → Bool
  | [] => true
  | '\\' :: c :: rest =>
      let hexRun (n : Nat) : Bool :=
        (rest.take n).length = n && (rest.take n).all fun d =>
          d.isDigit || ('a' ≤ d.toLower && d.toLower ≤ 'f')
      (if c == 'x' then hexRun 2
        else if isBytes then true
        else if c == 'u' then hexRun 4
        else if c == 'U' then hexRun 8 && valueInBase 16 (rest.take 8) < 0x110000
        else if c == 'N' then rest.head? == some '\x7b' && rest.contains '\x7d'
        else true) && escapesOk isBytes rest
  | _ :: rest => escapesOk isBytes rest

/-- The letters that may stand before a quoted text, in small letters. -/
def textMarkers : List (List Char) :=
  [[], ['b'], ['u'], ['r'], ['f'], ['b', 'r'], ['r', 'b'], ['f', 'r'], ['r', 'f']]

/-- Takes a quoted text from the front of a list, the letters before it already taken. -/
def takeText? (markers : List Char) (cs : List Char) : Option (Token × List Char) := do
  let mark ← cs.head?
  let tripled := [mark, mark, mark].isPrefixOf cs
  let (body, rest) ← takeBody? mark tripled (cs.drop (if tripled then 3 else 1))
  let isBytes := markers.contains 'b'
  let isRaw := markers.contains 'r'
  if isBytes && body.any (fun c => 128 ≤ c.toNat) then none
  else if !isRaw && !escapesOk isBytes body then none
  else some (.quotedText isBytes (if markers.contains 'f' then some body else none), rest)

/-- Takes a name, a reserved word or a text with letters before it from the front of a list.  A name
is read in its normal form; a reserved word is one only as it is spelled. -/
def takeWord? (cs : List Char) : Option (Token × List Char) :=
  let word := cs.takeWhile Text.isNameChar
  let rest := cs.dropWhile Text.isNameChar
  let markers := word.map Char.toLower
  if textMarkers.contains markers && rest.head?.any (fun c => c == '"' || c == '\'') then
    takeText? markers rest
  else
    let s := String.ofList word
    if reservedWords.contains s then some (.reserved s, rest)
    else some (.name (String.ofList (Text.normalForm word)), rest)

/-- Takes a mark from the front of a list. -/
def takeMark? (cs : List Char) : Option (Token × List Char) :=
  (marks.find? fun m => m.toList.isPrefixOf cs).map fun m => (.mark m, cs.drop m.length)

/-- Takes a token from the front of a list that starts with one. -/
def takeToken? (cs : List Char) : Option (Token × List Char) :=
  match cs with
  | [] => none
  | c :: rest =>
      if c.isDigit || (c == '.' && rest.head?.any Char.isDigit) then takeNumber? cs
      else if c == '"' || c == '\'' then takeText? [] cs
      else if Text.isNameStart c then takeWord? cs
      else takeMark? cs

/-- How many brackets are open after a token. -/
def depthAfter (depth : Nat) : Token → Nat
  | .mark m =>
      if m == "(" || m == "[" || m == "\x7b" then depth + 1
      else if m == ")" || m == "]" || m == "\x7d" then depth - 1
      else depth
  | _ => depth

/-- The tokens of a list of characters, read in at most `fuel` steps.  `depth` counts the open
brackets; `fresh` tells that a line has just begun, `indented` that blanks stand at its start. -/
def tokensFrom : (fuel depth : Nat) → (fresh indented : Bool) → List Char → Option (List Token)
  | 0, _, _, _, _ => none
  | _ + 1, _, _, _, [] => some [.lineEnd]
  | fuel + 1, depth, fresh, indented, c :: rest =>
      if c == ' ' || c == '\t' then tokensFrom fuel depth fresh fresh rest
      else if c == '\x0c' then tokensFrom fuel depth fresh false rest
      else if c == '#' then tokensFrom fuel depth fresh indented (rest.dropWhile (· != '\n'))
      else if c == '\n' then
        if fresh || depth != 0 then tokensFrom fuel depth fresh false rest
        else (tokensFrom fuel depth true false rest).map (Token.lineEnd :: ·)
      else if c == '\\' then
        match rest with
        | '\n' :: next :: tail => tokensFrom fuel depth fresh indented (next :: tail)
        | _ => none
      else if fresh && indented then none
      else match takeToken? (c :: rest) with
        | none => none
        | some (token, tail) =>
            if 200 ≤ depth && depth < depthAfter depth token then none
            else (tokensFrom fuel (depthAfter depth token) false false tail).map (token :: ·)

/-- A list of characters whose line ends are all written alike. -/
def joinLineEnds : List Char → List Char
  | '\r' :: '\n' :: rest => '\n' :: joinLineEnds rest
  | '\r' :: rest => '\n' :: joinLineEnds rest
  | c :: rest => c :: joinLineEnds rest
  | [] => []

/-- The tokens of an expression. -/
def tokens? (cs : List Char) : Option (List Token) :=
  if cs.contains '\x00' then none
  else
    let cs := joinLineEnds cs
    tokensFrom (cs.length + 1) 0 true false cs

end AdminGrid.Formula
