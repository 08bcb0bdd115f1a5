import AdminGrid.Entries
import AdminGrid.Value

/-!
# Equality of values

Two values are the same when they mean the same: numbers are compared in value whatever their kind,
a truth value counts as one or zero, lists are compared item by item, and maps entry by entry
whatever their order.
-/

namespace AdminGrid.Value

/-- The number that a value is; truth values count as one and zero. -/
def numeral? : Value → Option Numeral
  | bool b => some (.int (if b then 1 else 0))
  | int n => some (.int n)
  | float x => some (.float x)
  | _ => none

/-- Equality of a decimal number and a number. -/
def decimalSame (d : Decimal) : Numeral → Bool
  | .int n => d.sameInt n
  | .float x => d.sameFloat x

/-- Equality of values that hold no other values. -/
def sameLeaf (a b : Value) : Bool :=
  match a, b with
  | null, null => true
  | text s, text t => s == t
  | bytes s, bytes t => s == t
  | date s, date t => s = t
  | moment s, moment t => s = t
  | clock s, clock t => s = t
  | decimal d, decimal e => d.same e
  | decimal d, v => (v.numeral?).any (decimalSame d)
  | v, decimal d => (v.numeral?).any (decimalSame d)
  | v, w => match v.numeral?, w.numeral? with
    | some m, some n => m.same n
    | _, _ => false

mutual

/-- Whether two values mean the same. -/
def same : Value → Value → Bool
  | list xs, w => match w with
    | list ys => sameItems xs ys
    | _ => false
  | tuple xs, w => match w with
    | tuple ys => sameItems xs ys
    | _ => false
  | map es, w => match w with
    | map fs => es.length == fs.length && sameEntries es fs
    | _ => false
  | v, w => sameLeaf v w

/-- Whether two lists hold the same values in the same order. -/
def sameItems : List Value → List Value → Bool
  | [], ys => ys.isEmpty
  | x :: xs, ys => match ys with
    | [] => false
    | y :: ys => same x y && sameItems xs ys

/-- Whether every entry of the first collection has the same value in the second. -/
def sameEntries : List (String × Value) → List (String × Value) → Bool
  | [], _ => true
  | (key, v) :: rest, fs =>
      (match Entries.get? key fs with
        | some w => same v w
        | none => false) && sameEntries rest fs

end

end AdminGrid.Value
