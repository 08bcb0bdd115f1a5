import AdminGrid.Entries
import AdminGrid.Failure
import AdminGrid.Text.Split
import AdminGrid.Value.Same

/-!
# Expressions

An expression that formulas allow is built from numbers and names by `+`, `-`, `*`, `/`, `%` and
signs.  An element of any other kind is kept by the name of its kind, so that it can be refused
when it is reached.
-/

namespace AdminGrid.Formula

/-- An operation of two numbers. -/
inductive Operator where
  | add | sub | mul | div | mod
  deriving DecidableEq

/-- An expression. -/
inductive Expr where
  | number (n : Numeral)
  | name (s : String)
  | binary (op : Operator) (left right : Expr)
  | negate (e : Expr)
  | keep (e : Expr)
  /-- An element that formulas do not allow. -/
  | other (element : String)

namespace Operator

/-- The signs of the operations. -/
def signs : List (String × Operator) :=
  [("+", add), ("-", sub), ("*", mul), ("/", div), ("%", mod)]

/-- The operation of two numbers. -/
def onNumerals : Operator → Numeral → Numeral → Except ArithmeticFault Numeral
  | add => Numeral.add
  | sub => Numeral.sub
  | mul => Numeral.mul
  | div => Numeral.div
  | mod => Numeral.mod

/-- The result of an operation, or the failure that takes its place. -/
def apply (op : Operator) (a b : Numeral) : Attempt Numeral :=
  match op.onNumerals a b with
  | .ok n => .ok n
  | .error fault => .error fault.toFailure

end Operator

/-- The number that a cell holds: a number, or a text of one with commas left out. -/
def toNumber (cell : Value) : Attempt Numeral :=
  match cell.numeral? with
  | some n => .ok n
  | none =>
      match cell with
      | .null => .error (.format .emptyNumber)
      | cell =>
          let text := Text.replaceChar ',' "" (Text.strip cell.cellText)
          if text = "" then .error (.format .emptyNumber)
          else match Reading.int? text with
            | some n => .ok (.int n)
            | none => match Reading.float? text with
              | some x => .ok (.float x)
              | none => .error (.format (.notNumber cell))

/-- The value of an expression under the cells of the names. -/
def Expr.eval (cells : List (String × Value)) : Expr → Attempt Numeral
  | number n => .ok n
  | name s => match Entries.get? s cells with
    | some cell => toNumber cell
    | none => .error (.format (.unknownName s))
  | binary op left right => do
      let a ← left.eval cells
      let b ← right.eval cells
      op.apply a b
  | negate e => do return (← e.eval cells).neg
  | keep e => e.eval cells
  | other element => .error (.format (.unsupported element))

end AdminGrid.Formula
