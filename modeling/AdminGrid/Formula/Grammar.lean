import AdminGrid.Formula.Expression
import AdminGrid.Formula.Token

/-!
# The grammar of expressions

The whole grammar of expressions is read, although formulas allow only a part of it, so that a text
which is no expression is told from one whose elements are not allowed.  Each reader takes what it
can from the front of a list of tokens; `fuel` bounds the number of nested readings and is computed
from the length of the text.
-/

namespace AdminGrid.Formula

/-- Takes a given mark from the front of a list. -/
def takeMarkOf (m : String) : List Token → Option (List Token)
  | .mark n :: rest => if n = m then some rest else none
  | _ => none

/-- Takes a given reserved word from the front of a list. -/
def takeReserved (w : String) : List Token → Option (List Token)
  | .reserved v :: rest => if v = w then some rest else none
  | _ => none

/-- Whether a list starts with a given mark. -/
def atMark (m : String) (ts : List Token) : Bool := (takeMarkOf m ts).isSome

/-- The operators of a level of binding, from `or` at 0 to `*` at 9. -/
def levelMarks : Nat → List String
  | 4 => ["|"]
  | 5 => ["^"]
  | 6 => ["&"]
  | 7 => ["<<", ">>"]
  | 8 => ["+", "-"]
  | 9 => ["*", "/", "//", "%", "@"]
  | _ => []

/-- How two operands are joined by an operator of a level. -/
def joinAt (level : Nat) (sign : String) (left right : Expr) : Expr :=
  if level ≤ 1 then .other "BoolOp"
  else if level = 3 then .other "Compare"
  else match Entries.get? sign Operator.signs with
    | some op => .binary op left right
    | none => .other "BinOp"

/-- Takes an operator of a level from the front of a list. -/
def takeOperator (level : Nat) (ts : List Token) : Option (String × List Token) :=
  match level, ts with
  | 0, .reserved "or" :: rest => some ("or", rest)
  | 1, .reserved "and" :: rest => some ("and", rest)
  | 3, .mark m :: rest =>
      if ["==", "!=", "<", "<=", ">", ">="].contains m then some (m, rest) else none
  | 3, .reserved "in" :: rest => some ("in", rest)
  | 3, .reserved "not" :: .reserved "in" :: rest => some ("not in", rest)
  | 3, .reserved "is" :: .reserved "not" :: rest => some ("is not", rest)
  | 3, .reserved "is" :: rest => some ("is", rest)
  | level, .mark m :: rest => if (levelMarks level).contains m then some (m, rest) else none
  | _, _ => none

/-- What has been seen among the arguments of a call. -/
structure ArgumentsSeen where
  count : Nat
  keyword : Bool
  spread : Bool

/-- What has been seen among the parameters of an anonymous function. -/
structure ParametersSeen where
  count : Nat
  default : Bool
  slash : Bool
  star : Bool
  bareStar : Bool

/-- Whether a name may be bound to an expression. -/
def isTarget : Expr → Bool
  | .name _ => true
  | .other element => ["Attribute", "Subscript", "Tuple", "List", "Starred"].contains element
  | _ => false

/-- The parts of a replacement field: its expression and what follows it.  `quote` is the open
quotation mark inside the expression, `open_` the open brackets. -/
def fieldParts? (quote : Option Char) (open_ : List Char) :
    List Char → Option (List Char × List Char)
  | [] => none
  | c :: rest =>
      let go (quote : Option Char) (open_ : List Char) :=
        (fieldParts? quote open_ rest).map fun (e, tail) => (c :: e, tail)
      if c == '\\' then none
      else match quote with
        | some q => go (if c = q then none else quote) open_
        | none =>
            if c == '\'' || c == '"' then go (some c) open_
            else if c == '#' then none
            else if c == '(' || c == '[' || c == '\x7b' then go none (c :: open_)
            else match open_ with
              | o :: outer =>
                  if c == ')' || c == ']' || c == '\x7d' then
                    if (o == '(' && c == ')') || (o == '[' && c == ']') ||
                        (o == '\x7b' && c == '\x7d') then
                      go none outer
                    else none
                  else go none open_
              | [] =>
                  if c == '!' || c == '=' || c == '<' || c == '>' then
                    match rest with
                    | '=' :: tail =>
                        (fieldParts? none [] tail).map fun (e, after) => (c :: '=' :: e, after)
                    | _ =>
                        if c == '<' || c == '>' then go none []
                        else some ([], c :: rest)
                  else if c == ':' || c == '\x7d' then some ([], c :: rest)
                  else if c == ')' || c == ']' then none
                  else go none []
  termination_by cs => cs.length

/-- Takes the format of a replacement field with the closing brace. -/
def takeFormat (depth : Nat) : List Char → Option (List Char × List Char)
  | [] => none
  | c :: rest =>
      if c == '\x7d' && depth = 0 then some ([], rest)
      else
        let depth := if c == '\x7b' then depth + 1 else if c == '\x7d' then depth - 1 else depth
        (takeFormat depth rest).map fun (format, tail) => (c :: format, tail)

mutual

/-- Takes an expression: an operand, a choice between two by a condition, or a function. -/
def takeExpression : (fuel : Nat) → List Token → Option (Expr × List Token)
  | 0, _ => none
  | fuel + 1, ts =>
      match takeReserved "lambda" ts with
      | some rest => takeFunction fuel ⟨0, false, false, false, false⟩ rest
      | none => do
          let (e, rest) ← takeOperand fuel 0 ts
          match takeReserved "if" rest with
          | none => return (e, rest)
          | some rest =>
              let (_, rest) ← takeOperand fuel 0 rest
              let rest ← takeReserved "else" rest
              let (_, rest) ← takeExpression fuel rest
              return (.other "IfExp", rest)

/-- Takes the parameters and the body of an anonymous function. -/
def takeFunction : (fuel : Nat) → ParametersSeen → List Token → Option (Expr × List Token)
  | 0, _, _ => none
  | fuel + 1, seen, ts =>
      let finish (rest : List Token) : Option (Expr × List Token) := do
        let rest ← takeMarkOf ":" rest
        let (_, rest) ← takeExpression fuel rest
        return (.other "Lambda", rest)
      let next (seen : ParametersSeen) (rest : List Token) : Option (Expr × List Token) :=
        match takeMarkOf "," rest with
        | some rest => takeFunction fuel seen rest
        | none => if seen.bareStar then none else finish rest
      match ts with
      | .mark ":" :: _ => if seen.bareStar then none else finish ts
      | .mark "/" :: rest =>
          if seen.count = 0 || seen.slash || seen.star then none
          else next { seen with slash := true } rest
      | .mark "*" :: .name _ :: rest =>
          if seen.star then none else next { seen with star := true } rest
      | .mark "*" :: rest =>
          if seen.star then none else next { seen with star := true, bareStar := true } rest
      | .mark "**" :: .name _ :: rest =>
          if seen.bareStar then none
          else match takeMarkOf "," rest with
            | some rest => finish rest
            | none => finish rest
      | .name _ :: .mark "=" :: rest => do
          let (_, rest) ← takeExpression fuel rest
          next { seen with count := seen.count + 1, default := true, bareStar := false } rest
      | .name _ :: rest =>
          if seen.default && !seen.star then none
          else next { seen with count := seen.count + 1, bareStar := false } rest
      | _ => none

/-- Takes an operand whose operators bind at least as tightly as a level. -/
def takeOperand : (fuel level : Nat) → List Token → Option (Expr × List Token)
  | 0, _, _ => none
  | fuel + 1, level, ts =>
      if level = 2 then
        match takeReserved "not" ts with
        | some rest => do
            let (_, rest) ← takeOperand fuel 2 rest
            return (.other "UnaryOp", rest)
        | none => takeOperand fuel 3 ts
      else if level = 10 then
        match ts with
        | .mark "-" :: rest => do
            let (e, rest) ← takeOperand fuel 10 rest
            return (.negate e, rest)
        | .mark "+" :: rest => do
            let (e, rest) ← takeOperand fuel 10 rest
            return (.keep e, rest)
        | .mark "~" :: rest => do
            let (_, rest) ← takeOperand fuel 10 rest
            return (.other "UnaryOp", rest)
        | ts => do
            let (e, rest) ← takeOperand fuel 11 ts
            match takeMarkOf "**" rest with
            | none => return (e, rest)
            | some rest =>
                let (_, rest) ← takeOperand fuel 10 rest
                return (.other "BinOp", rest)
      else if level = 11 then
        match takeReserved "await" ts with
        | some rest => do
            let (e, rest) ← takeAtom fuel rest
            let (_, rest) ← takeTrailers fuel e rest
            return (.other "Await", rest)
        | none => do
            let (e, rest) ← takeAtom fuel ts
            takeTrailers fuel e rest
      else do
        let (e, rest) ← takeOperand fuel (level + 1) ts
        takeChain fuel level e rest

/-- Takes the further operands of a chain of operators of one level. -/
def takeChain : (fuel level : Nat) → Expr → List Token → Option (Expr × List Token)
  | 0, _, _, _ => none
  | fuel + 1, level, left, ts =>
      match takeOperator level ts with
      | none => some (left, ts)
      | some (sign, rest) => do
          let (right, rest) ← takeOperand fuel (level + 1) rest
          takeChain fuel level (joinAt level sign left right) rest

/-- Takes calls, subscripts and attributes after an operand. -/
def takeTrailers : (fuel : Nat) → Expr → List Token → Option (Expr × List Token)
  | 0, _, _ => none
  | fuel + 1, e, ts =>
      match ts with
      | .mark "." :: .name _ :: rest => takeTrailers fuel (.other "Attribute") rest
      | .mark "." :: _ => none
      | .mark "(" :: rest => do
          let rest ← takeArguments fuel ⟨0, false, false⟩ rest
          takeTrailers fuel (.other "Call") rest
      | .mark "[" :: rest => do
          let rest ← takeSlices fuel rest
          takeTrailers fuel (.other "Subscript") rest
      | ts => some (e, ts)

/-- Takes the arguments of a call with the closing bracket. -/
def takeArguments : (fuel : Nat) → ArgumentsSeen → List Token → Option (List Token)
  | 0, _, _ => none
  | fuel + 1, seen, ts =>
      let next (seen : ArgumentsSeen) (rest : List Token) : Option (List Token) :=
        match takeMarkOf "," rest with
        | some rest => takeArguments fuel { seen with count := seen.count + 1 } rest
        | none => takeMarkOf ")" rest
      match ts with
      | .mark ")" :: rest => some rest
      | .mark "*" :: rest => do
          if seen.spread then none
          let (_, rest) ← takeExpression fuel rest
          next seen rest
      | .mark "**" :: rest => do
          let (_, rest) ← takeExpression fuel rest
          next { seen with keyword := true, spread := true } rest
      | .name _ :: .mark "=" :: rest => do
          let (_, rest) ← takeExpression fuel rest
          next { seen with keyword := true } rest
      | ts => do
          if seen.keyword then none
          let (_, rest) ← takeNamed fuel ts
          match takeLoops fuel rest with
          | some rest => if seen.count = 0 then takeMarkOf ")" rest else none
          | none => next seen rest

/-- Takes the subscripts of an operand with the closing bracket. -/
def takeSlices : (fuel : Nat) → List Token → Option (List Token)
  | 0, _ => none
  | fuel + 1, ts => do
      let bound (ts : List Token) : List Token :=
        if atMark ":" ts || atMark "," ts || atMark "]" ts then ts
        else match takeExpression fuel ts with
          | some (_, rest) => rest
          | none => []
      let rest ← match ts with
        | .mark "*" :: rest => (takeOperand fuel 4 rest).map (·.2)
        | .mark ":" :: rest => some rest
        | ts => (takeNamed fuel ts).bind fun (_, rest) =>
            match takeMarkOf ":" rest with
            | some rest => some rest
            | none => if atMark "," rest || atMark "]" rest then some rest else none
      let rest :=
        match ts with
        | .mark "*" :: _ => rest
        | _ =>
            if atMark "," rest || atMark "]" rest then rest
            else
              let rest := bound rest
              match takeMarkOf ":" rest with
              | some rest => bound rest
              | none => rest
      match takeMarkOf "]" rest with
      | some rest => return rest
      | none =>
          let rest ← takeMarkOf "," rest
          match takeMarkOf "]" rest with
          | some rest => return rest
          | none => takeSlices fuel rest

/-- Takes an expression that may be given a name. -/
def takeNamed : (fuel : Nat) → List Token → Option (Expr × List Token)
  | 0, _ => none
  | fuel + 1, ts =>
      match ts with
      | .name _ :: .mark ":=" :: rest => do
          let (_, rest) ← takeExpression fuel rest
          return (.other "NamedExpr", rest)
      | ts => do
          let (e, rest) ← takeExpression fuel ts
          if atMark ":=" rest then none else return (e, rest)

/-- Takes an item of a list: an expression that may be given a name, or a spread list. -/
def takeItem : (fuel : Nat) → List Token → Option (Expr × List Token)
  | 0, _ => none
  | fuel + 1, ts =>
      match takeMarkOf "*" ts with
      | some rest => (takeOperand fuel 4 rest).map fun (_, rest) => (.other "Starred", rest)
      | none => takeNamed fuel ts

/-- Takes the further items of a list with the closing bracket. -/
def takeItems : (fuel : Nat) → (closing : String) → List Token → Option (List Token)
  | 0, _, _ => none
  | fuel + 1, closing, ts =>
      match takeMarkOf closing ts with
      | some rest => some rest
      | none => do
          let rest ← takeMarkOf "," ts
          match takeMarkOf closing rest with
          | some rest => return rest
          | none =>
              let (_, rest) ← takeItem fuel rest
              takeItems fuel closing rest

/-- Takes items that cannot be given names, at least one, with the closing round bracket. -/
def takeYielded : (fuel : Nat) → List Token → Option (List Token)
  | 0, _ => none
  | fuel + 1, ts => do
      let rest ← match takeMarkOf "*" ts with
        | some rest => (takeOperand fuel 4 rest).map (·.2)
        | none => (takeExpression fuel ts).map (·.2)
      match takeMarkOf ")" rest with
      | some rest => return rest
      | none =>
          let rest ← takeMarkOf "," rest
          match takeMarkOf ")" rest with
          | some rest => return rest
          | none => takeYielded fuel rest

/-- Takes the loops of a comprehension, at least one. -/
def takeLoops : (fuel : Nat) → List Token → Option (List Token)
  | 0, _ => none
  | fuel + 1, ts => do
      let rest ← takeReserved "for" ((takeReserved "async" ts).getD ts)
      let rest ← takeTargets fuel rest
      let rest ← takeReserved "in" rest
      let (_, rest) ← takeOperand fuel 0 rest
      let rest ← takeConditions fuel rest
      return (takeLoops fuel rest).getD rest

/-- Takes the conditions of a loop. -/
def takeConditions : (fuel : Nat) → List Token → Option (List Token)
  | 0, _ => none
  | fuel + 1, ts =>
      match takeReserved "if" ts with
      | some rest => do
          let (_, rest) ← takeOperand fuel 0 rest
          takeConditions fuel rest
      | none => some ts

/-- Takes the names that a loop binds. -/
def takeTargets : (fuel : Nat) → List Token → Option (List Token)
  | 0, _ => none
  | fuel + 1, ts => do
      let (e, rest) ← takeOperand fuel 4 ((takeMarkOf "*" ts).getD ts)
      if !isTarget e then none
      match takeMarkOf "," rest with
      | some rest => if (takeReserved "in" rest).isSome then return rest else takeTargets fuel rest
      | none => return rest

/-- Takes the entries of a map after the first one, with the closing bracket. -/
def takeMapEntries : (fuel : Nat) → List Token → Option (List Token)
  | 0, _ => none
  | fuel + 1, ts =>
      match takeMarkOf "\x7d" ts with
      | some rest => some rest
      | none => do
          let rest ← takeMarkOf "," ts
          match takeMarkOf "\x7d" rest with
          | some rest => return rest
          | none => takeMapEntries fuel (← takeMapEntry fuel rest)

/-- Takes one entry of a map. -/
def takeMapEntry : (fuel : Nat) → List Token → Option (List Token)
  | 0, _ => none
  | fuel + 1, ts =>
      match takeMarkOf "**" ts with
      | some rest => (takeOperand fuel 4 rest).map (·.2)
      | none => do
          let (_, rest) ← takeExpression fuel ts
          let rest ← takeMarkOf ":" rest
          let (_, rest) ← takeExpression fuel rest
          return rest

/-- Takes what stands between braces, with the closing one. -/
def takeBraces : (fuel : Nat) → List Token → Option (Expr × List Token)
  | 0, _ => none
  | fuel + 1, ts =>
      match ts with
      | .mark "\x7d" :: rest => some (.other "Dict", rest)
      | .mark "**" :: _ => do
          let rest ← takeMapEntry fuel ts
          let rest ← takeMapEntries fuel rest
          return (.other "Dict", rest)
      | ts => do
          let (e, rest) ← takeItem fuel ts
          let starred := match e with
            | .other "Starred" => true
            | _ => false
          let isNamed := match ts with
            | .name _ :: .mark ":=" :: _ => true
            | _ => false
          match takeMarkOf ":" rest with
          | some rest =>
              if starred || isNamed then none
              let (_, rest) ← takeExpression fuel rest
              match takeLoops fuel rest with
              | some rest => return (.other "DictComp", ← takeMarkOf "\x7d" rest)
              | none => return (.other "Dict", ← takeMapEntries fuel rest)
          | none =>
              match takeLoops fuel rest with
              | some rest =>
                  if starred then none
                  else return (.other "SetComp", ← takeMarkOf "\x7d" rest)
              | none => return (.other "Set", ← takeItems fuel "\x7d" rest)

/-- Takes what stands between round brackets, with the closing one. -/
def takeParentheses : (fuel : Nat) → List Token → Option (Expr × List Token)
  | 0, _ => none
  | fuel + 1, ts =>
      match ts with
      | .mark ")" :: rest => some (.other "Tuple", rest)
      | .reserved "yield" :: .reserved "from" :: rest => do
          let (_, rest) ← takeExpression fuel rest
          return (.other "YieldFrom", ← takeMarkOf ")" rest)
      | .reserved "yield" :: .mark ")" :: rest => some (.other "Yield", rest)
      | .reserved "yield" :: rest => return (.other "Yield", ← takeYielded fuel rest)
      | ts => do
          let (e, rest) ← takeItem fuel ts
          let starred := match e with
            | .other "Starred" => true
            | _ => false
          match takeMarkOf ")" rest with
          | some rest => if starred then none else return (e, rest)
          | none =>
              match takeLoops fuel rest with
              | some rest =>
                  if starred then none else return (.other "GeneratorExp", ← takeMarkOf ")" rest)
              | none => return (.other "Tuple", ← takeItems fuel ")" rest)

/-- Takes a list in square brackets, with the closing one. -/
def takeBrackets : (fuel : Nat) → List Token → Option (Expr × List Token)
  | 0, _ => none
  | fuel + 1, ts =>
      match takeMarkOf "]" ts with
      | some rest => some (.other "List", rest)
      | none => do
          let (e, rest) ← takeItem fuel ts
          let starred := match e with
            | .other "Starred" => true
            | _ => false
          match takeLoops fuel rest with
          | some rest => if starred then none else return (.other "ListComp", ← takeMarkOf "]" rest)
          | none => return (.other "List", ← takeItems fuel "]" rest)

/-- Whether the literal part and the replacement fields of a text are well formed. -/
def fieldsOk : (fuel : Nat) → (nested : Bool) → List Char → Bool
  | 0, _, _ => false
  | fuel + 1, nested, cs =>
      match cs with
      | [] => true
      | '\x7b' :: rest =>
          if !nested && rest.head? == some '\x7b' then fieldsOk fuel nested (rest.drop 1)
          else match takeField fuel nested rest with
            | some rest => fieldsOk fuel nested rest
            | none => false
      | '\x7d' :: rest => !nested && rest.head? == some '\x7d' && fieldsOk fuel nested (rest.drop 1)
      | _ :: rest => fieldsOk fuel nested rest

/-- Takes a replacement field after its opening brace, with the closing one. -/
def takeField : (fuel : Nat) → (nested : Bool) → List Char → Option (List Char)
  | 0, _, _ => none
  | fuel + 1, nested, cs => do
      let (body, rest) ← fieldParts? none [] cs
      if body.all Text.isPlainBlank then none
      let ts ← tokens? (['('] ++ body ++ [')'])
      let (_, after) ← takeAtom fuel ts
      if after != [.lineEnd] then none
      let rest := match rest with
        | '=' :: rest => rest.dropWhile Text.isPlainBlank
        | rest => rest
      let rest ← match rest with
        | '!' :: c :: rest => if c == 's' || c == 'r' || c == 'a' then some rest else none
        | rest => some rest
      match rest with
      | '\x7d' :: rest => return rest
      | ':' :: rest =>
          if nested then none
          else
            let (format, rest) ← takeFormat 0 rest
            if fieldsOk fuel true format then return rest else none
      | _ => none

/-- Takes an operand without operators. -/
def takeAtom : (fuel : Nat) → List Token → Option (Expr × List Token)
  | 0, _ => none
  | fuel + 1, ts =>
      match ts with
      | .number n :: rest => some (.number n, rest)
      | .imaginary :: rest => some (.other "Constant", rest)
      | .name s :: rest => some (.name s, rest)
      | .reserved w :: rest =>
          if ["True", "False", "None"].contains w then some (.other "Constant", rest) else none
      | .mark "..." :: rest => some (.other "Constant", rest)
      | .mark "(" :: rest => takeParentheses fuel rest
      | .mark "[" :: rest => takeBrackets fuel rest
      | .mark "\x7b" :: rest => takeBraces fuel rest
      | .quotedText isBytes body :: rest =>
          takeTexts fuel isBytes false (.quotedText isBytes body :: rest)
      | _ => none

/-- Takes quoted texts that stand side by side. -/
def takeTexts : (fuel : Nat) → (isBytes formatted : Bool) → List Token → Option (Expr × List Token)
  | 0, _, _, _ => none
  | fuel + 1, isBytes, formatted, ts =>
      match ts with
      | .quotedText b body :: rest =>
          if b != isBytes then none
          else match body with
            | some cs => if fieldsOk fuel false cs then takeTexts fuel isBytes true rest else none
            | none => takeTexts fuel isBytes formatted rest
      | ts => some (.other (if formatted then "JoinedStr" else "Constant"), ts)

end

/-- Takes the further members of a bare tuple up to the end of the text. -/
def endsTuple : (fuel : Nat) → List Token → Bool
  | 0, _ => false
  | fuel + 1, ts =>
      match ts with
      | .mark "," :: rest =>
          rest.all (· == .lineEnd) ||
            match takeExpression (fuel * 20) rest with
            | some (_, rest) => endsTuple fuel rest
            | none => false
      | ts => ts.all (· == .lineEnd)

/-- The expression that a text denotes. -/
def Expr.ofText? (s : String) : Option Expr := do
  let ts ← tokens? s.toList
  let fuel := 20 * (s.length + 2)
  let (e, rest) ← takeExpression fuel ts
  if rest.all (· == .lineEnd) then return e
  else if endsTuple (ts.length + 1) rest then return .other "Tuple"
  else none

end AdminGrid.Formula
