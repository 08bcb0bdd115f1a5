import AdminGrid.Failure
import AdminGrid.Number.Binary64
import AdminGrid.Text.Utf8

/-!
# Forms of a value

A value is read as a whole number, written out as a part of a text, or put in the plain form that
documents and grids share.
-/

namespace AdminGrid

/-! ## Whole numbers

The whole number that a value denotes: a number cut toward zero, or a text that reads as one.
`Value.whole?` leaves out values that denote none, `Value.whole` refuses them. -/

/-- A list of bytes as text, bytes outside ASCII as a question mark. -/
def plainText (bytes : List UInt8) : String :=
  String.ofList (bytes.map fun b => if b < 128 then Char.ofNat b.toNat else '?')

/-- The whole number that a cell denotes, cut toward zero, if it denotes one. -/
def Value.whole? (cell : Value) : Attempt (Option Int) :=
  match cell with
  | .bool b => .ok (some (if b then 1 else 0))
  | .int n => .ok (some n)
  | .float (.infinite _) => .error .outOfRange
  | .float x => .ok x.truncate?
  | .text s => .ok (Reading.int? s)
  | .bytes bs => .ok (Reading.int? (plainText bs))
  | .decimal (.infinite _) => .error .outOfRange
  | .decimal d => .ok (d.ratio?.map fun (num, den) => Int.tdiv num den)
  | _ => .ok none

/-- The whole number that a value denotes. -/
def Value.whole (v : Value) : Attempt Int := do
  match ← v.whole? with
  | some n => return n
  | none => match v with
    | .float _ | .text _ | .bytes _ | .decimal _ => .error .badValue
    | _ => .error .wrongKind

/-! ## Values written out

A value that becomes a part of a text is written out as it reads in a cell.  A whole number of more
than `Reading.maxDigits` digits is not written out, wherever in the value it stands. -/

/-- A whole number in decimal digits, unless it has too many of them. -/
def integerText? (n : Int) : Option String :=
  if n.natAbs < tenTo Reading.maxDigits then some (toString n) else none

theorem lt_tenTo_maxDigits {m : Nat} (h : m < 100) : m < tenTo Reading.maxDigits := by
  have hle : tenTo 2 ≤ tenTo Reading.maxDigits := tenTo_le (by decide)
  have htwo : tenTo 2 = 100 := rfl
  omega

mutual

/-- Whether no whole number in a value has too many digits. -/
def Value.isWritable : Value → Bool
  | int n => (integerText? n).isSome
  | list items | tuple items => Value.areWritable items
  | map entries => Value.entriesWritable entries
  | _ => true

/-- Whether all items of a list can be written out. -/
def Value.areWritable : List Value → Bool
  | [] => true
  | v :: rest => v.isWritable && Value.areWritable rest

/-- Whether all entries of a map can be written out. -/
def Value.entriesWritable : List (String × Value) → Bool
  | [] => true
  | (_, v) :: rest => v.isWritable && Value.entriesWritable rest

end

/-- A value written out as it reads in a cell. -/
def Value.written (v : Value) : Attempt String :=
  if v.isWritable then .ok v.cellText else .error .badValue

theorem Value.written_eq_ok_iff {v : Value} {s : String} :
    v.written = .ok s ↔ v.isWritable = true ∧ v.cellText = s := by
  unfold Value.written
  split <;> simp [*]

theorem Value.exists_written_iff {v : Value} :
    (∃ s, v.written = .ok s) ↔ v.isWritable = true := by
  simp [Value.written_eq_ok_iff]

theorem Value.isWritable_int {n : Int} (h : n.natAbs < tenTo Reading.maxDigits) :
    (Value.int n).isWritable = true := by
  rw [Value.isWritable, integerText?, if_pos h]
  rfl

theorem Value.isWritable_of_isBlank {v : Value} (h : v.isBlank = true) : v.isWritable = true := by
  cases v with
  | null | text s => rfl
  | _ => cases h

/-! ## Plain values

A plain value is one that a document and a grid can both hold: dates and times are written out,
decimal numbers become floating ones, and bytes are read as the characters that they stand for. -/

/-- A value in plain form. -/
def Value.plain : Value → Value
  | date d => .text d.iso
  | moment m => .text (m.iso 'T')
  | clock t => .text t.iso
  | decimal d => .float d.toFloat
  | bytes bs => .text (Text.ofBytes bs)
  | v => v

mutual

/-- Whether a value can be looked up in a collection of constants. -/
def Value.isConstant : Value → Bool
  | list _ | map _ => false
  | tuple items => Value.areConstant items
  | _ => true

/-- Whether all values of a list can be looked up. -/
def Value.areConstant : List Value → Bool
  | [] => true
  | v :: rest => v.isConstant && Value.areConstant rest

end

end AdminGrid
