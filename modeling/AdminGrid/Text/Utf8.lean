/-!
# Texts from bytes

Bytes are read as UTF-8.  Where they are malformed, each longest piece that begins a character and
breaks off is read as one replacement character.
-/

namespace AdminGrid.Text

/-- What stands for bytes that are no character. -/
def replacement : Char := Char.ofNat 0xFFFD

/-- The number of bytes that continue a first byte, its own bits, and the bounds of the byte after
it; none when the byte begins no character. -/
def leadByte? (b : Nat) : Option (Nat × Nat × Nat × Nat) :=
  if b < 0x80 then some (0, b, 0, 0)
  else if 0xC2 ≤ b && b ≤ 0xDF then some (1, b - 0xC0, 0x80, 0xBF)
  else if b = 0xE0 then some (2, 0, 0xA0, 0xBF)
  else if b = 0xED then some (2, 13, 0x80, 0x9F)
  else if 0xE1 ≤ b && b ≤ 0xEF then some (2, b - 0xE0, 0x80, 0xBF)
  else if b = 0xF0 then some (3, 0, 0x90, 0xBF)
  else if b = 0xF4 then some (3, 4, 0x80, 0x8F)
  else if 0xF1 ≤ b && b ≤ 0xF3 then some (3, b - 0xF0, 0x80, 0xBF)
  else none

/-- Takes the bytes that continue a character from the front of a list, as long as they do: the bits
so far, the number of bytes still missing, and the rest. -/
def takeContinuation : (missing bits low high : Nat) → List UInt8 → Nat × Nat × List UInt8
  | 0, bits, _, _, bytes => (bits, 0, bytes)
  | missing + 1, bits, _, _, [] => (bits, missing + 1, [])
  | missing + 1, bits, low, high, b :: bytes =>
      if low ≤ b.toNat && b.toNat ≤ high then
        takeContinuation missing (bits * 64 + (b.toNat - 0x80)) 0x80 0xBF bytes
      else (bits, missing + 1, b :: bytes)

theorem length_takeContinuation (missing bits low high : Nat) (bytes : List UInt8) :
    (takeContinuation missing bits low high bytes).2.2.length ≤ bytes.length := by
  induction bytes generalizing missing bits low high with
  | nil => cases missing <;> simp [takeContinuation]
  | cons b bytes ih =>
      cases missing with
      | zero => simp [takeContinuation]
      | succ missing =>
          simp only [takeContinuation]
          split
          · exact Nat.le_succ_of_le (ih ..)
          · simp

/-- The characters that bytes stand for. -/
def readUtf8 : List UInt8 → List Char
  | [] => []
  | b :: bytes =>
      match leadByte? b.toNat with
      | none => replacement :: readUtf8 bytes
      | some (missing, bits, low, high) =>
          let taken := takeContinuation missing bits low high bytes
          (if taken.2.1 = 0 then Char.ofNat taken.1 else replacement) :: readUtf8 taken.2.2
  termination_by bytes => bytes.length
  decreasing_by
    · exact Nat.lt_succ_self _
    · exact Nat.lt_succ_of_le (length_takeContinuation ..)

/-- The text that bytes stand for. -/
def ofBytes (bytes : List UInt8) : String := String.ofList (readUtf8 bytes)

/-- The text that bytes encode, if none of them is malformed. -/
def ofBytes? (bytes : List UInt8) : Option String :=
  let s := ofBytes bytes
  if s.toUTF8.toList = bytes then some s else none

end AdminGrid.Text
