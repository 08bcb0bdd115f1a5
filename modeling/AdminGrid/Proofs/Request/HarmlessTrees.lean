import AdminGrid.Proofs.Outcome
import AdminGrid.Proofs.Request.HarmlessText
import AdminGrid.Proofs.Text.Occurrence

/-!
# Input that is let through

The guard walks through input and stops at the first fault.  Whatever order it walks in, input is
let through exactly if nothing in it stands too deep and no text of it, or of a key, holds a
dangerous pattern; and where it is refused, the fault that the refusal names is there.  A key is
judged by its text, so a key without one, a whole number of too many digits, stops the walk, too.
-/

namespace AdminGrid.Request

open Text

namespace Input

/-- What stands directly in a tree: the texts of the keys of a map and what stands under them, or
the items of a list. -/
def directParts : Input → List Input
  | map entries => entries.flatMap fun e => [single (.text e.1.cellText), e.2]
  | list items => items
  | single _ => []

/-- The keys of a map. -/
def directKeys : Input → List Value
  | map entries => entries.map (·.1)
  | _ => []

/-- Whether a tree stands in another, a number of levels below it. -/
def StandsAt : Nat → Input → Input → Prop
  | 0, part, tree => part = tree
  | n + 1, part, tree => ∃ inner ∈ directParts tree, StandsAt n part inner

/-- Whether every key in a tree has a text. -/
def HasKeyTexts (tree : Input) : Prop :=
  ∀ n part, StandsAt n part tree → ∀ key ∈ part.directKeys, key.isWritable = true

end Input

open Input

/-- Whether nothing in input that starts at a depth stands too deep, is dangerous or is a key
without a text. -/
structure HarmlessFrom (depth : Nat) (tree : Input) : Prop where
  shallow : ∀ n part, StandsAt n part tree → depth + n ≤ maxDepth
  harmless : ∀ n s, StandsAt n (.single (.text s)) tree → isHarmless s = true
  keyed : HasKeyTexts tree

/-- Whether the fault that a failure names is there in input that starts at a depth. -/
def FaultFrom (depth : Nat) (tree : Input) : Failure → Prop
  | .security .tooDeep _ => ∃ n part, StandsAt n part tree ∧ maxDepth < depth + n
  | .security .dangerous _ => ∃ n s, StandsAt n (.single (.text s)) tree ∧ isHarmless s = false
  | .badValue => ∃ n part, StandsAt n part tree ∧ ∃ key ∈ part.directKeys, key.isWritable = false
  | _ => False

/-- An attempt that lets harmless input through, and refuses other input for a fault that is
there. -/
def Judges (depth : Nat) (tree : Input) (a : Attempt Unit) : Prop :=
  Ends (FaultFrom depth tree) (fun _ => HarmlessFrom depth tree) a

/-- An attempt that judges parts of input, all at one depth, and the keys of a map. -/
def JudgesAll (depth : Nat) (parts : List Input) (keys : List Value) (a : Attempt Unit) : Prop :=
  Ends (fun e => (∃ part ∈ parts, FaultFrom depth part e) ∨
      e = .badValue ∧ ∃ key ∈ keys, key.isWritable = false)
    (fun _ => (∀ part ∈ parts, HarmlessFrom depth part) ∧ ∀ key ∈ keys, key.isWritable = true) a

section Parts

variable {path : String} {depth : Nat} {tree part : Input} {parts : List Input} {key : Value}
  {keys : List Value} {a b : Attempt Unit}

/-- A fault of a part is one of the whole. -/
theorem FaultFrom.of_part {e : Failure} (hpart : part ∈ directParts tree)
    (h : FaultFrom (depth + 1) part e) : FaultFrom depth tree e := by
  cases e with
  | security fault field =>
      cases fault with
      | tooDeep =>
          obtain ⟨n, inner, hstands, hdeep⟩ := h
          exact ⟨n + 1, inner, ⟨part, hpart, hstands⟩, by omega⟩
      | dangerous =>
          obtain ⟨n, s, hstands, hdangerous⟩ := h
          exact ⟨n + 1, s, ⟨part, hpart, hstands⟩, hdangerous⟩
      | badIdentifier v => exact h
  | badValue =>
      obtain ⟨n, inner, hstands, hkey⟩ := h
      exact ⟨n + 1, inner, ⟨part, hpart, hstands⟩, hkey⟩
  | _ => exact h

theorem HarmlessFrom.of_parts (hdepth : depth ≤ maxDepth)
    (htree : ∀ s, tree = .single (.text s) → isHarmless s = true)
    (h : ∀ part ∈ directParts tree, HarmlessFrom (depth + 1) part)
    (hkeys : ∀ key ∈ directKeys tree, key.isWritable = true) : HarmlessFrom depth tree where
  shallow n part hstands := by
    cases n with
    | zero => exact hdepth
    | succ n =>
        obtain ⟨inner, hinner, hstands⟩ := hstands
        have hshallow := (h inner hinner).shallow n part hstands
        omega
  harmless n s hstands := by
    cases n with
    | zero => exact htree s hstands.symm
    | succ n =>
        obtain ⟨inner, hinner, hstands⟩ := hstands
        exact (h inner hinner).harmless n s hstands
  keyed n part hstands := by
    cases n with
    | zero => exact hstands ▸ hkeys
    | succ n =>
        obtain ⟨inner, hinner, hstands⟩ := hstands
        exact (h inner hinner).keyed n part hstands

theorem judgesAll_nil : JudgesAll depth [] [] (.ok ()) :=
  ⟨List.forall_mem_nil _, List.forall_mem_nil _⟩

/-- Parts are judged one after the other. -/
theorem Judges.cons (hpart : Judges depth part a) (hrest : JudgesAll depth parts keys b) :
    JudgesAll depth (part :: parts) keys (a >>= fun _ => b) := by
  refine Ends.bind (hpart.mono ?_ fun _ h => h) fun _ _ hharmless => hrest.mono ?_ ?_
  · exact fun e hfault => Or.inl ⟨part, List.mem_cons_self, hfault⟩
  · rintro e (⟨other, hother, hfault⟩ | hkey)
    · exact Or.inl ⟨other, List.mem_cons_of_mem part hother, hfault⟩
    · exact Or.inr hkey
  · exact fun _ h => ⟨List.forall_mem_cons.2 ⟨hharmless, h.1⟩, h.2⟩

/-- A key is written out before what it stands over is judged. -/
theorem JudgesAll.written {f : String → Attempt Unit}
    (h : JudgesAll depth parts keys (f key.cellText)) :
    JudgesAll depth parts (key :: keys) (key.written >>= f) := by
  unfold Value.written
  split
  · rename_i hwritable
    refine Ends.mono h ?_ fun _ hall => ⟨hall.1, List.forall_mem_cons.2 ⟨hwritable, hall.2⟩⟩
    rintro e (hpart | ⟨rfl, other, hother, hkey⟩)
    · exact Or.inl hpart
    · exact Or.inr ⟨rfl, other, List.mem_cons_of_mem key hother, hkey⟩
  · rename_i hwritable
    exact Or.inr ⟨rfl, key, List.mem_cons_self, Bool.not_eq_true _ ▸ hwritable⟩

theorem judges_tooDeep (h : maxDepth < depth) :
    Judges depth tree (.error (refusal .tooDeep path)) := ⟨0, tree, rfl, h⟩

theorem judges_checkText (path : String) (depth : Nat) (s : String) :
    Judges depth (.single (.text s)) (checkText path depth s) := by
  unfold checkText
  split
  · rename_i hdeep
    exact judges_tooDeep hdeep
  · rename_i hdepth
    split
    · rename_i hharmless
      refine HarmlessFrom.of_parts (Nat.not_lt.1 hdepth) ?_ (List.forall_mem_nil _)
        (List.forall_mem_nil _)
      rintro _ ⟨⟩
      exact hharmless
    · rename_i hdangerous
      exact ⟨0, s, rfl, Bool.not_eq_true _ ▸ hdangerous⟩

/-- A tree that is no text is judged by its parts and keys, unless it stands too deep itself. -/
theorem JudgesAll.judges (htree : ∀ s, tree ≠ .single (.text s))
    (h : JudgesAll (depth + 1) (directParts tree) (directKeys tree) a) :
    Judges depth tree (if maxDepth < depth then .error (refusal .tooDeep path) else a) := by
  split
  · rename_i hdeep
    exact judges_tooDeep hdeep
  · rename_i hdepth
    refine h.mono ?_ fun _ hall => ?_
    · rintro e (⟨part, hpart, hfault⟩ | ⟨rfl, hkey⟩)
      · exact hfault.of_part hpart
      · exact ⟨0, tree, rfl, hkey⟩
    · exact .of_parts (Nat.not_lt.1 hdepth) (fun s hs => absurd hs (htree s)) hall.1 hall.2

end Parts

mutual

/-- Input is judged, whatever it is made of. -/
theorem judges_checkInput (path : String) (depth : Nat) :
    (tree : Input) → Judges depth tree (checkInput path depth tree)
  | .map entries => by
      unfold checkInput
      exact (judgesAll_checkEntries path (depth + 1) entries).judges fun _ h => nomatch h
  | .list items => by
      unfold checkInput
      exact (judgesAll_checkItems path (depth + 1) 0 items).judges fun _ h => nomatch h
  | .single (.text s) => by
      unfold checkInput
      exact judges_checkText path depth s
  | .single .null | .single (.bool _) | .single (.int _) | .single (.float _)
  | .single (.bytes _) | .single (.decimal _) | .single (.date _) | .single (.moment _)
  | .single (.clock _) | .single (.list _) | .single (.tuple _) | .single (.map _) => by
      unfold checkInput
      exact judgesAll_nil.judges fun _ h => nomatch h

theorem judgesAll_checkEntries (path : String) (depth : Nat) :
    (entries : List (Value × Input)) → JudgesAll depth (directParts (.map entries))
      (directKeys (.map entries)) (checkEntries path depth entries)
  | [] => judgesAll_nil
  | (key, v) :: rest => by
      unfold checkEntries
      refine JudgesAll.written ?_
      exact (judges_checkText _ _ _).cons
        ((judges_checkInput _ _ v).cons (judgesAll_checkEntries path depth rest))

theorem judgesAll_checkItems (path : String) (depth i : Nat) :
    (items : List Input) → JudgesAll depth items [] (checkItems path depth i items)
  | [] => judgesAll_nil
  | v :: rest => by
      unfold checkItems
      exact (judges_checkInput _ _ v).cons (judgesAll_checkItems path depth (i + 1) rest)

end

section Trees

variable {tree : Input}

theorem isHarmless_iff_forall_not_standsIn {s : String} :
    isHarmless s = true ↔ ∀ p ∈ dangerousPatterns, ¬ p.StandsIn s := by
  rw [isHarmless_iff]
  exact forall₂_congr fun p _ => by rw [← Pattern.occursIn_iff, Bool.not_eq_true]

theorem harmlessFrom_zero_iff :
    HarmlessFrom 0 tree ↔ HasKeyTexts tree ∧ (∀ n part, StandsAt n part tree → n ≤ maxDepth) ∧
      ∀ n s, StandsAt n (.single (.text s)) tree → ∀ p ∈ dangerousPatterns, ¬ p.StandsIn s := by
  simp only [← isHarmless_iff_forall_not_standsIn]
  constructor
  · exact fun h => ⟨h.keyed, fun n part hv => Nat.zero_add n ▸ h.shallow n part hv, h.harmless⟩
  · rintro ⟨hkeyed, hshallow, hharmless⟩
    exact ⟨fun n part hv => (Nat.zero_add n).symm ▸ hshallow n part hv, hharmless, hkeyed⟩

theorem FaultFrom.not_harmlessFrom {depth : Nat} {e : Failure} (h : FaultFrom depth tree e) :
    ¬ HarmlessFrom depth tree := by
  intro hharmless
  cases e with
  | security fault field =>
      cases fault with
      | tooDeep =>
          obtain ⟨n, part, hstands, hdeep⟩ := h
          exact absurd (hharmless.shallow n part hstands) (Nat.not_le.2 hdeep)
      | dangerous =>
          obtain ⟨n, s, hstands, hdangerous⟩ := h
          rw [hharmless.harmless n s hstands] at hdangerous
          cases hdangerous
      | badIdentifier v => exact h
  | badValue =>
      obtain ⟨n, part, hstands, key, hkey, hunwritable⟩ := h
      rw [hharmless.keyed n part hstands key hkey] at hunwritable
      cases hunwritable
  | _ => exact h

/-- A fault is named by a refusal of the input, unless there is a key without a text. -/
theorem FaultFrom.exists_security {depth : Nat} {e : Failure} (h : FaultFrom depth tree e) :
    (∃ fault field, e = .security fault field) ∨ e = .badValue ∧ ¬ HasKeyTexts tree := by
  cases e with
  | security fault field => exact Or.inl ⟨fault, field, rfl⟩
  | badValue =>
      refine Or.inr ⟨rfl, fun hkeyed => ?_⟩
      obtain ⟨n, part, hstands, key, hkey, hunwritable⟩ := h
      rw [hkeyed n part hstands key hkey] at hunwritable
      cases hunwritable
  | _ => exact h.elim

/-- A tree of input whose keys all have a text is let through exactly if nothing in it stands more
than ten levels deep and no text in it, or of a key, holds a dangerous pattern; otherwise it is
refused, and for a fault that is there.  A tree with a key without a text is never let through: it
is refused, or the walk stops at such a key. -/
theorem checkTree_eq_ok_iff_harmless (tree : Input) :
    (HasKeyTexts tree →
      (checkTree tree = .ok () ↔
        (∀ depth part, StandsAt depth part tree → depth ≤ 10) ∧
          ∀ depth s, StandsAt depth (.single (.text s)) tree →
            ∀ p ∈ dangerousPatterns, ¬ p.StandsIn s) ∧
      (checkTree tree = .ok () ∨ ∃ fault field,
        checkTree tree = .error (.security fault field) ∧
          FaultFrom 0 tree (.security fault field))) ∧
    (¬ HasKeyTexts tree → (∃ fault field, checkTree tree = .error (.security fault field)) ∨
      checkTree tree = .error .badValue) := by
  have hjudges : Judges 0 tree (checkTree tree) := judges_checkInput "" 0 tree
  cases hcheck : checkTree tree with
  | ok u =>
      rw [hcheck] at hjudges
      have hharmless := harmlessFrom_zero_iff.1 hjudges
      exact ⟨fun _ => ⟨iff_of_true rfl hharmless.2, Or.inl rfl⟩,
        fun hkeys => absurd hharmless.1 hkeys⟩
  | error e =>
      rw [hcheck] at hjudges
      have hfault : FaultFrom 0 tree e := hjudges
      refine ⟨fun hkeys => ⟨iff_of_false (fun h => nomatch h) fun h => ?_, Or.inr ?_⟩, fun _ => ?_⟩
      · exact hfault.not_harmlessFrom (harmlessFrom_zero_iff.2 ⟨hkeys, h⟩)
      · rcases hfault.exists_security with ⟨fault, field, rfl⟩ | ⟨-, hnot⟩
        · exact ⟨fault, field, rfl, hfault⟩
        · exact absurd hkeys hnot
      · rcases hfault.exists_security with ⟨fault, field, rfl⟩ | ⟨rfl, -⟩
        · exact Or.inl ⟨fault, field, rfl⟩
        · exact Or.inr rfl

/-- A flag under a key that is no text, and a note. -/
def flaggedInput : Input :=
  .map [(.bool true, .list [.single (.text "on")]), (.text "note", .single (.text "a 'b'"))]

/-- A tree with a truth value for a key is let through, and nothing in it stands too deep. -/
theorem checkTree_eq_ok_iff_harmless_flagged : HasKeyTexts flaggedInput ∧
    checkTree flaggedInput = .ok () ∧
    ∀ depth part, StandsAt depth part flaggedInput → depth ≤ 10 := by
  have hcheck : checkTree flaggedInput = .ok () := by rfl
  have hjudges : Judges 0 flaggedInput (checkTree flaggedInput) := judges_checkInput "" 0 _
  have hkeys : HasKeyTexts flaggedInput := by
    rw [hcheck] at hjudges
    exact hjudges.keyed
  exact ⟨hkeys, hcheck, (((checkTree_eq_ok_iff_harmless flaggedInput).1 hkeys).1.1 hcheck).1⟩

end Trees

section Params

/-- What stands in a value as input is a value as input. -/
theorem exists_of_standsAt {n : Nat} {part : Input} {v : Value} (h : StandsAt n part (.of v)) :
    ∃ w, part = .of w := by
  induction n generalizing v with
  | zero => exact ⟨v, h⟩
  | succ n ih =>
      obtain ⟨inner, hinner, hstands⟩ := h
      suffices ∃ w, inner = .of w by
        obtain ⟨w, rfl⟩ := this
        exact ih hstands
      cases v with
      | map entries =>
          rw [Input.of, Input.ofEntries_eq_map, directParts, List.flatMap_map] at hinner
          obtain ⟨e, -, he⟩ := List.mem_flatMap.1 hinner
          rcases List.mem_pair.1 he with rfl | rfl
          · exact ⟨.text e.1, rfl⟩
          · exact ⟨e.2, rfl⟩
      | list items | tuple items =>
          rw [Input.of, Input.ofItems_eq_map, directParts] at hinner
          obtain ⟨w, -, rfl⟩ := List.mem_map.1 hinner
          exact ⟨w, rfl⟩
      | _ => cases hinner

theorem hasKeyTexts_of (v : Value) : HasKeyTexts (.of v) := by
  intro n part hstands key hkey
  obtain ⟨w, rfl⟩ := exists_of_standsAt hstands
  cases w with
  | map entries =>
      rw [Input.of, Input.ofEntries_eq_map, directKeys, List.map_map] at hkey
      obtain ⟨e, -, rfl⟩ := List.mem_map.1 hkey
      rfl
  | _ => cases hkey

/-- Whether a failure is a refusal of the input. -/
def IsSecurity (e : Failure) : Prop := ∃ fault field, e = .security fault field

/-- Parameters are only ever refused. -/
theorem ends_checkParams (params : Value) :
    Ends IsSecurity (fun _ => True) (checkParams params) := by
  refine Ends.mono (judges_checkInput "" 0 (.of params)) (fun e hfault => ?_) fun _ _ => trivial
  rcases hfault.exists_security with hsecurity | ⟨-, hnot⟩
  · exact hsecurity
  · exact absurd (hasKeyTexts_of params) hnot

end Params

end AdminGrid.Request
