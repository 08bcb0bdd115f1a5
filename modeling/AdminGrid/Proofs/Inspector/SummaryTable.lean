import AdminGrid.Proofs.Command.Gate
import AdminGrid.Proofs.Json.RoundTrip
import AdminGrid.Proofs.Request.HarmlessText

/-!
# The summary as a table

A table of a text document has one row on each line, and the cells of a row between bars.  So two
kinds of characters give a text its shape: those that end a line, and bars that are not escaped.
The summary keeps the former out of every cell but the name of the file, and the latter out of none.
It is a table of its rows exactly if no cell holds a bar of its own and no name of a file ends a
line.
-/

namespace AdminGrid.Inspector

/-! ## Lines and cells -/

/-- Whether a character ends a line. -/
def endsLine (c : Char) : Bool := c == '\n' || c == '\r'

/-- The lines of a text. -/
def linesOf (cs : List Char) : List (List Char) := cs.splitOnP endsLine

/-- Whether a text stays on one line. -/
def Unbroken (cs : List Char) : Prop := ∀ c ∈ cs, endsLine c = false

instance (cs : List Char) : Decidable (Unbroken cs) :=
  List.decidableBAll (fun c => endsLine c = false) cs

/-- What stands between the bars of a line.  A backslash takes the next character with it, so that
an escaped bar is part of a cell. -/
def cellsOf : List Char → List (List Char)
  | [] => [[]]
  | '\\' :: c :: rest => (cellsOf rest).modifyHead fun cell => '\\' :: c :: cell
  | c :: rest => if c = '|' then [] :: cellsOf rest else (cellsOf rest).modifyHead (c :: ·)

/-- Whether a text has a bar that is not escaped. -/
def hasBar : List Char → Bool
  | [] => false
  | '\\' :: _ :: rest => hasBar rest
  | c :: rest => c == '|' || hasBar rest

/-- A text as it stands in a cell, between two blanks. -/
def framed (cs : List Char) : List Char := ' ' :: cs ++ [' ']

section Splitting

theorem cellsOf_ne_nil (cs : List Char) : cellsOf cs ≠ [] := by
  fun_induction cellsOf cs with
  | case1 => simp
  | case2 c rest ih => simpa using ih
  | case3 => simp
  | case4 c rest _ _ ih => simpa using ih

/-- A text without a bar is one cell. -/
theorem cellsOf_of_not_hasBar {cs : List Char} (h : hasBar cs = false) : cellsOf cs = [cs] := by
  fun_induction cellsOf cs with
  | case1 => rfl
  | case2 c rest ih =>
      rw [hasBar] at h
      rw [ih h, List.modifyHead_cons]
  | case3 rest hescape =>
      rw [hasBar] at h
      · simp at h
      · exact hescape
  | case4 c rest hescape _ ih =>
      rw [hasBar] at h
      · rw [ih (Bool.or_eq_false_iff.1 h).2, List.modifyHead_cons]
      · exact hescape

/-- A text with a bar is more than one cell. -/
theorem two_le_length_cellsOf {cs : List Char} (h : hasBar cs = true) :
    2 ≤ (cellsOf cs).length := by
  fun_induction cellsOf cs with
  | case1 => cases h
  | case2 c rest ih =>
      rw [hasBar] at h
      rw [List.length_modifyHead]
      exact ih h
  | case3 rest hescape =>
      have hpos := List.length_pos_iff.2 (cellsOf_ne_nil rest)
      rw [List.length_cons]
      omega
  | case4 c rest hescape hbar ih =>
      rw [hasBar] at h
      · rw [List.length_modifyHead]
        rw [Bool.or_eq_true, beq_iff_eq] at h
        exact ih (h.resolve_left hbar)
      · exact hescape

/-- A bar behind a blank ends a cell, whatever stands before the blank. -/
theorem cellsOf_append_bar (cs rest : List Char) :
    cellsOf (cs ++ ' ' :: '|' :: rest) = cellsOf (cs ++ [' ']) ++ cellsOf rest := by
  fun_induction cellsOf cs with
  | case1 => rfl
  | case2 c cs ih =>
      have hne := cellsOf_ne_nil (cs ++ [' '])
      show (cellsOf (cs ++ ' ' :: '|' :: rest)).modifyHead _ =
        (cellsOf (cs ++ [' '])).modifyHead _ ++ cellsOf rest
      rw [ih]
      cases hcells : cellsOf (cs ++ [' ']) with
      | nil => exact absurd hcells hne
      | cons cell cells => rfl
  | case3 cs hescape ih =>
      show [] :: cellsOf (cs ++ ' ' :: '|' :: rest) = _
      rw [ih]
      rfl
  | case4 c cs hescape hbar ih =>
      cases cs with
      | nil =>
          -- a backslash at the end takes the blank with it, and not the bar
          by_cases hback : c = '\\'
          · subst hback
            rfl
          · show cellsOf (c :: ' ' :: '|' :: rest) = cellsOf [c, ' '] ++ cellsOf rest
            simp [cellsOf, hback, hbar]
      | cons d cs =>
          have hback : c ≠ '\\' := fun hc => hescape d cs hc rfl
          have hne := cellsOf_ne_nil (d :: cs ++ [' '])
          have hcons : ∀ tail, cellsOf (c :: tail) = (cellsOf tail).modifyHead (c :: ·) :=
            fun tail => by simp [cellsOf, hback, hbar]
          simp only [List.cons_append] at ih hne ⊢
          rw [hcons, hcons, ih]
          cases hcells : cellsOf (d :: (cs ++ [' '])) with
          | nil => exact absurd hcells hne
          | cons cell cells => rfl

theorem hasBar_append_blank (cs : List Char) : hasBar (cs ++ [' ']) = hasBar cs := by
  fun_induction hasBar cs with
  | case1 => rfl
  | case2 c rest ih => exact ih
  | case3 c rest hescape ih =>
      cases rest with
      | nil => by_cases hback : c = '\\' <;> simp [hasBar, hback]
      | cons d rest =>
          have hback : c ≠ '\\' := fun hc => hescape d rest hc rfl
          rw [List.cons_append, ← ih]
          simp [hasBar, hback]

theorem hasBar_framed (cs : List Char) : hasBar (framed cs) = hasBar cs := by
  have hblank : hasBar (' ' :: (cs ++ [' '])) = hasBar (cs ++ [' ']) := by simp [hasBar]
  exact hblank.trans (hasBar_append_blank cs)

theorem unbroken_append_iff {cs cs' : List Char} :
    Unbroken (cs ++ cs') ↔ Unbroken cs ∧ Unbroken cs' := List.forall_mem_append

theorem linesOf_of_unbroken {cs : List Char} (h : Unbroken cs) : linesOf cs = [cs] :=
  List.splitOnP_eq_singleton h

theorem two_le_length_linesOf {cs : List Char} (h : ¬ Unbroken cs) : 2 ≤ (linesOf cs).length := by
  obtain ⟨c, hc, hends⟩ : ∃ c ∈ cs, endsLine c = true := by simpa [Unbroken] using h
  obtain ⟨before, after, rfl⟩ := List.append_of_mem hc
  have hbefore := List.length_pos_iff.2 (List.splitOnP_ne_nil (p := endsLine) before)
  have hafter := List.length_pos_iff.2 (List.splitOnP_ne_nil (p := endsLine) after)
  rw [linesOf, List.splitOnP_append_cons before after hends, List.length_append]
  omega

variable {α β : Type} {f : α → List β} {xs : List α}

theorem length_le_length_flatMap (hne : ∀ x ∈ xs, f x ≠ []) :
    xs.length ≤ (xs.flatMap f).length := by
  induction xs with
  | nil => exact Nat.le_refl 0
  | cons x xs ih =>
      rw [List.forall_mem_cons] at hne
      have hpos := List.length_pos_iff.2 hne.1
      have hrest := ih hne.2
      rw [List.flatMap_cons, List.length_append, List.length_cons]
      omega

/-- Pieces that are as many as the things they come from are one of each. -/
theorem forall_length_eq_one (hne : ∀ x ∈ xs, f x ≠ [])
    (h : (xs.flatMap f).length = xs.length) : ∀ x ∈ xs, (f x).length = 1 := by
  induction xs with
  | nil => exact List.forall_mem_nil _
  | cons x xs ih =>
      rw [List.forall_mem_cons] at hne ⊢
      have hpos := List.length_pos_iff.2 hne.1
      have hrest := length_le_length_flatMap hne.2
      rw [List.flatMap_cons, List.length_append, List.length_cons] at h
      exact ⟨by omega, ih hne.2 (by omega)⟩

/-- Texts between bars are the cells of their line exactly if none of them has a bar. -/
theorem cellsOf_row_iff (texts : List (List Char)) :
    cellsOf ('|' :: texts.flatMap fun cs => framed cs ++ ['|']) =
      [] :: texts.map framed ++ [[]] ↔ ∀ cs ∈ texts, hasBar cs = false := by
  have hcells : cellsOf ('|' :: texts.flatMap fun cs => framed cs ++ ['|']) =
      [] :: (texts.flatMap fun cs => cellsOf (framed cs)) ++ [[]] := by
    show [] :: cellsOf _ = _
    rw [List.cons_append]
    refine congrArg _ ?_
    induction texts with
    | nil => rfl
    | cons cs texts ih =>
        calc cellsOf (framed cs ++ ['|'] ++ texts.flatMap fun cs => framed cs ++ ['|'])
            = cellsOf (' ' :: cs ++ ' ' :: '|' :: texts.flatMap fun cs => framed cs ++ ['|']) := by
              simp [framed]
          _ = cellsOf (framed cs) ++ cellsOf (texts.flatMap fun cs => framed cs ++ ['|']) :=
              cellsOf_append_bar (' ' :: cs) _
          _ = cellsOf (framed cs) ++ (texts.flatMap fun cs => cellsOf (framed cs)) ++ [[]] := by
              rw [ih, List.append_assoc]
  rw [hcells, List.cons_append, List.cons_append, List.cons.injEq, List.append_left_inj]
  constructor
  · rintro ⟨-, heq⟩ cs hcs
    -- each text gives one cell or more, so that a bar in one of them makes the line too long
    have hlength := congrArg List.length heq
    rw [List.length_map] at hlength
    have hone := forall_length_eq_one (fun cs _ => cellsOf_ne_nil (framed cs)) hlength cs hcs
    refine Bool.eq_false_iff.2 fun hbar => ?_
    have htwo := two_le_length_cellsOf ((hasBar_framed cs).trans hbar)
    omega
  · intro hall
    refine ⟨rfl, ?_⟩
    rw [List.map_eq_flatMap]
    exact List.flatMap_congr fun cs hcs =>
      cellsOf_of_not_hasBar ((hasBar_framed cs).trans (hall cs hcs))

/-- Lines that each end in a line feed, with nothing behind the last one. -/
theorem linesOf_flatMap (lines : List (List Char)) :
    linesOf (lines.flatMap fun cs => cs ++ ['\n']) = lines.flatMap linesOf ++ [[]] := by
  induction lines with
  | nil => rfl
  | cons cs lines ih =>
      rw [List.flatMap_cons, List.flatMap_cons, List.append_assoc, List.singleton_append,
        List.append_assoc, ← ih]
      exact List.splitOnP_append_cons cs _ rfl

end Splitting

/-! ## Cells on one line -/

section Unbroken

theorem unbroken_of_isPlain {cs : List Char} (h : Request.IsPlain cs) : Unbroken cs := by
  have hplain : ∀ c ∈ Request.plainChars, endsLine c = false :=
    List.all_iff_forall_prop.1 (by decide +kernel)
  exact fun c hc => hplain c (h.plain c hc)

theorem unbroken_escapeChar (c : Char) : Unbroken (Json.escapeChar c) := by
  have hcontrol : ∀ n < 32, Unbroken (Text.hex 4 n) := by decide
  unfold Json.escapeChar
  iterate 7
    split
    · decide
  split
  · rename_i hlow
    exact List.forall_mem_cons.2 ⟨rfl, List.forall_mem_cons.2 ⟨rfl, hcontrol _ hlow⟩⟩
  · rename_i hfeed _ hreturn _
    exact List.forall_mem_singleton.2 (by simp [endsLine, hfeed, hreturn])

theorem unbroken_writeText (s : String) : Unbroken (Json.writeText s) := by
  refine List.forall_mem_cons.2 ⟨rfl, unbroken_append_iff.2 ⟨fun c hc => ?_, by decide⟩⟩
  obtain ⟨d, -, hc⟩ := List.mem_flatMap.1 hc
  exact unbroken_escapeChar d c hc

theorem unbroken_enclose {level : Nat} {opening closing : Char} (hopening : endsLine opening = false)
    (hclosing : endsLine closing = false) {items : List (List Char)}
    (h : ∀ item ∈ items, Unbroken item) :
    Unbroken (Json.Style.compact.enclose level opening closing items) := by
  have hend : Unbroken [closing] := List.forall_mem_singleton.2 hclosing
  cases items with
  | nil => exact List.forall_mem_cons.2 ⟨hopening, hend⟩
  | cons first rest =>
      rw [List.forall_mem_cons] at h
      rw [Json.enclose_compact]
      refine List.forall_mem_cons.2 ⟨hopening, unbroken_append_iff.2 ⟨?_, hend⟩⟩
      refine unbroken_append_iff.2 ⟨h.1, fun c hc => ?_⟩
      obtain ⟨item, hitem, hc⟩ := List.mem_flatMap.1 hc
      have hline : Unbroken (',' :: item) := List.forall_mem_cons.2 ⟨rfl, h.2 item hitem⟩
      exact hline c hc

mutual

/-- A compact document is written on one line. -/
theorem unbroken_writeValue {level : Nat} :
    (v : Value) → ∀ {cs}, Json.writeValue .compact level v = .ok cs → Unbroken cs
  | .null, cs, h => by
      rw [← Except.ok.inj h]
      decide
  | .bool b, cs, h => by
      rw [← Except.ok.inj h]
      cases b <;> decide
  | .int n, cs, h => by
      unfold Json.writeValue Json.writeInt at h
      split at h
      · rw [← Except.ok.inj h]
        exact unbroken_of_isPlain (Request.isPlain_toString n)
      · cases h
  | .float x, cs, h => by
      rw [← Except.ok.inj h]
      unfold Json.writeFloat
      split
      · decide
      · decide
      · exact unbroken_of_isPlain (Request.isPlain_text .document x)
  | .text s, cs, h => Except.ok.inj h ▸ unbroken_writeText s
  | .date d, cs, h => Except.ok.inj h ▸ unbroken_writeText d.iso
  | .moment m, cs, h => Except.ok.inj h ▸ unbroken_writeText (m.iso 'T')
  | .clock t, cs, h => by
      unfold Json.writeValue at h
      split at h
      · cases h
      · exact Except.ok.inj h ▸ unbroken_writeText t.iso
  | .bytes bs, cs, h => nomatch h
  | .decimal d, cs, h => nomatch h
  | .list items, cs, h | .tuple items, cs, h => by
      obtain ⟨written, hwritten, h⟩ := bind_eq_ok.1 h
      rw [← pure_eq_ok.1 h]
      exact unbroken_enclose rfl rfl (unbroken_writeItems items hwritten)
  | .map entries, cs, h => by
      obtain ⟨written, hwritten, h⟩ := bind_eq_ok.1 h
      rw [← pure_eq_ok.1 h]
      exact unbroken_enclose rfl rfl (unbroken_writeEntries entries hwritten)

theorem unbroken_writeItems {level : Nat} :
    (items : List Value) → ∀ {written}, Json.writeItems .compact level items = .ok written →
      ∀ item ∈ written, Unbroken item
  | [], written, h => by
      rw [← Except.ok.inj h]
      exact List.forall_mem_nil _
  | v :: rest, written, h => by
      obtain ⟨-, w, ws, hw, hws, rfl⟩ := Json.writeItems_cons_eq_ok.1 h
      exact List.forall_mem_cons.2 ⟨unbroken_writeValue v hw, unbroken_writeItems rest hws⟩

theorem unbroken_writeEntries {level : Nat} :
    (entries : List (String × Value)) → ∀ {written},
      Json.writeEntries .compact level entries = .ok written → ∀ item ∈ written, Unbroken item
  | [], written, h => by
      rw [← Except.ok.inj h]
      exact List.forall_mem_nil _
  | (key, v) :: rest, written, h => by
      obtain ⟨-, w, ws, hw, hws, rfl⟩ := Json.writeEntries_cons_eq_ok.1 h
      refine List.forall_mem_cons.2 ⟨?_, unbroken_writeEntries rest hws⟩
      exact unbroken_append_iff.2 ⟨unbroken_writeText key,
        List.forall_mem_cons.2 ⟨rfl, unbroken_writeValue v hw⟩⟩

end

theorem forall_replaceChar {mark : Char} {by_ s : String} {p : Char → Prop}
    (hby : ∀ c ∈ by_.toList, p c) (hs : ∀ c ∈ s.toList, c ≠ mark → p c) :
    ∀ c ∈ (Text.replaceChar mark by_ s).toList, p c := by
  intro c hc
  rw [Text.replaceChar, String.toList_ofList] at hc
  obtain ⟨d, hd, hc⟩ := List.mem_flatMap.1 hc
  split at hc
  · exact hby c hc
  · rename_i hmark
    obtain rfl := List.mem_singleton.1 hc
    exact hs c hd hmark

/-- No value breaks the line of its cell. -/
theorem unbroken_markdownCell {v : Value} {text : String} (h : markdownCell v = .ok text) :
    Unbroken text.toList := by
  unfold markdownCell at h
  split at h
  · rw [← Except.ok.inj h]
    decide
  · obtain ⟨cs, hcs, h⟩ := bind_eq_ok.1 h
    rw [← pure_eq_ok.1 h, String.toList_ofList]
    exact unbroken_writeValue _ hcs
  · obtain ⟨cs, hcs, h⟩ := bind_eq_ok.1 h
    rw [← pure_eq_ok.1 h, String.toList_ofList]
    exact unbroken_writeValue _ hcs
  · rw [← Except.ok.inj h]
    refine forall_replaceChar (by simp [endsLine]) fun c hc hreturn => ?_
    have hfeed : c ≠ '\n' :=
      forall_replaceChar (p := (· ≠ '\n')) (by simp) (fun _ _ hne => hne) c hc
    simp [endsLine, hfeed, hreturn]

end Unbroken

/-! ## The table of the summary -/

/-- Whether a row has the two entries that its line cannot do without. -/
structure Listed (row : Entries Value) : Prop where
  file : Entries.has "file" row = true
  route : Entries.has "route" row = true

/-- The texts of the cells of a row: the name of the file as it is, and the six values behind it. -/
def cellTexts (row : Entries Value) : Attempt (List String) := do
  let route ← markdownCell (cellAt row "route")
  let rest ← ["severity", "recordsTotal", "recordsFiltered", "data_length", "note"].mapM fun key =>
    markdownCell (cellAt row key)
  return (cellAt row "file").cellText :: route :: rest

/-- Whether a line has just the cells of a row between its bars. -/
def TabulatesRow (row : Entries Value) (line : List Char) : Prop :=
  ∃ texts, cellTexts row = .ok texts ∧
    cellsOf line = [] :: (texts.map String.toList).map framed ++ [[]]

/-- Whether a text is a table of some rows: below the four lines of its head there is one line for
each row, in order, with its seven cells. -/
def Tabulates (rows : List (Entries Value)) (text : String) : Prop :=
  ∃ lines, linesOf text.toList = markdownHead.map String.toList ++ lines ++ [[]] ∧
    List.Forall₂ TabulatesRow rows lines

/-- Whether a row leaves the shape of a table as it is: all its values can be written, none of its
cells has a bar, and the name of its file ends no line. -/
structure Neutral (row : Entries Value) : Prop where
  file : Unbroken (cellAt row "file").cellText.toList
  cells : ∃ texts, cellTexts row = .ok texts ∧ ∀ t ∈ texts, hasBar t.toList = false

section Table

theorem markdownLine_eq {row : Entries Value} (h : Listed row) :
    markdownLine row =
      (cellTexts row).map fun texts => "| " ++ " | ".intercalate texts ++ " |" := by
  obtain ⟨file, hfile⟩ := Option.isSome_iff_exists.1 h.file
  obtain ⟨route, hroute⟩ := Option.isSome_iff_exists.1 h.route
  have hcells : cellAt row "file" = file ∧ cellAt row "route" = route := by
    simp [cellAt, hfile, hroute]
  unfold markdownLine cellTexts entryOfRow
  rw [hfile, hroute, hcells.1, hcells.2]
  show (markdownCell route >>= _) = Except.map _ (markdownCell route >>= _)
  cases markdownCell route with
  | error e => rfl
  | ok first =>
      show (List.mapM _ _ >>= _) = Except.map _ (List.mapM _ _ >>= _)
      cases List.mapM (fun key => markdownCell (cellAt row key))
        ["severity", "recordsTotal", "recordsFiltered", "data_length", "note"] <;> rfl

/-- A line as its bars and what stands before each of them. -/
theorem toList_line (first : String) (rest : List String) :
    ("| " ++ " | ".intercalate (first :: rest) ++ " |").toList =
      '|' :: ((first :: rest).map String.toList).flatMap fun cs => framed cs ++ ['|'] := by
  rw [String.toList_append, String.toList_append, String.toList_intercalate, List.map_cons]
  generalize rest.map String.toList = rest
  generalize first.toList = first
  show '|' :: ' ' :: (List.intercalate [' ', '|', ' '] (first :: rest) ++ [' ', '|']) = _
  refine congrArg _ ?_
  induction rest generalizing first with
  | nil => simp [framed]
  | cons second rest ih =>
      have hrest := ih second
      rw [List.intercalate_cons_cons, List.flatMap_cons, ← hrest]
      simp [framed]

/-- The text below the head: every line with a line feed behind it. -/
theorem toList_document (first : String) (lines : List String) :
    ("\n".intercalate (first :: lines) ++ "\n").toList =
      ((first :: lines).map String.toList).flatMap fun cs => cs ++ ['\n'] := by
  rw [String.toList_append, String.toList_intercalate, List.map_cons]
  generalize lines.map String.toList = lines
  generalize first.toList = first
  show List.intercalate ['\n'] (first :: lines) ++ ['\n'] = _
  induction lines generalizing first with
  | nil => simp
  | cons second lines ih =>
      have hrest := ih second
      rw [List.intercalate_cons_cons, List.flatMap_cons, ← hrest]
      simp

section Line

variable {row : Entries Value} {texts : List String}

/-- Only the name of the file can break the line of a row. -/
theorem unbroken_line_iff (h : cellTexts row = .ok texts) :
    Unbroken ("| " ++ " | ".intercalate texts ++ " |").toList ↔
      Unbroken (cellAt row "file").cellText.toList := by
  obtain ⟨route, hroute, h⟩ := bind_eq_ok.1 h
  obtain ⟨rest, hrest, h⟩ := bind_eq_ok.1 h
  obtain rfl := pure_eq_ok.1 h
  have hvalues : ∀ t ∈ route :: rest, Unbroken t.toList := by
    refine List.forall_mem_cons.2 ⟨unbroken_markdownCell hroute, fun t ht => ?_⟩
    obtain ⟨key, -, hcell⟩ := exists_of_mem_of_mapM hrest ht
    exact unbroken_markdownCell hcell
  have hframed : ∀ cs, Unbroken (framed cs ++ ['|']) ↔ Unbroken cs := fun cs => by
    have hparts : framed cs ++ ['|'] = [' '] ++ (cs ++ [' ', '|']) := by simp [framed]
    rw [hparts, unbroken_append_iff, unbroken_append_iff]
    exact ⟨fun h => h.2.1, fun h => ⟨by decide, h, by decide⟩⟩
  rw [toList_line]
  constructor
  · intro hline
    refine (hframed _).1 fun c hc => hline c (List.mem_cons_of_mem _ ?_)
    exact List.mem_flatMap.2 ⟨_, List.mem_cons_self, hc⟩
  · refine fun hfile => List.forall_mem_cons.2 ⟨rfl, fun c hc => ?_⟩
    obtain ⟨cs, hcs, hc⟩ := List.mem_flatMap.1 hc
    obtain ⟨t, ht, rfl⟩ := List.mem_map.1 hcs
    rcases List.mem_cons.1 ht with rfl | ht
    · exact (hframed _).2 hfile c hc
    · exact (hframed _).2 (hvalues t ht) c hc

/-- The line of a row has the cells of the row exactly if no cell has a bar. -/
theorem tabulatesRow_iff (h : cellTexts row = .ok texts) :
    TabulatesRow row ("| " ++ " | ".intercalate texts ++ " |").toList ↔
      ∀ t ∈ texts, hasBar t.toList = false := by
  have hsame : TabulatesRow row ("| " ++ " | ".intercalate texts ++ " |").toList ↔
      cellsOf ("| " ++ " | ".intercalate texts ++ " |").toList =
        [] :: (texts.map String.toList).map framed ++ [[]] := by
    constructor
    · rintro ⟨texts', htexts', hcells⟩
      obtain rfl := Except.ok.inj (h.symm.trans htexts')
      exact hcells
    · exact fun hcells => ⟨texts, h, hcells⟩
  obtain ⟨route, -, h⟩ := bind_eq_ok.1 h
  obtain ⟨rest, -, h⟩ := bind_eq_ok.1 h
  obtain rfl := pure_eq_ok.1 h
  rw [hsame, toList_line, cellsOf_row_iff, List.forall_mem_map]

/-- The line of a row is one line with the cells of the row exactly if the row is neutral. -/
theorem neutral_iff (h : Listed row) {line : String} (hline : markdownLine row = .ok line) :
    Neutral row ↔ Unbroken line.toList ∧ TabulatesRow row line.toList := by
  rw [markdownLine_eq h, map_eq_ok] at hline
  obtain ⟨texts, htexts, rfl⟩ := hline
  rw [unbroken_line_iff htexts, tabulatesRow_iff htexts]
  constructor
  · rintro ⟨hfile, texts', htexts', hbars⟩
    obtain rfl := Except.ok.inj (htexts.symm.trans htexts')
    exact ⟨hfile, hbars⟩
  · exact fun ⟨hfile, hbars⟩ => ⟨hfile, texts, htexts, hbars⟩

end Line

section Rows

variable {rows : List (Entries Value)}

/-- A text of lines is a table exactly if each of them stays on one line and has the cells of its
row. -/
theorem tabulates_iff {written : List String} (hlength : rows.length = written.length) :
    Tabulates rows ("\n".intercalate (markdownHead ++ written) ++ "\n") ↔
      (∀ line ∈ written, Unbroken line.toList) ∧
        List.Forall₂ (fun row line => TabulatesRow row line.toList) rows written := by
  have hhead : (markdownHead.map String.toList).flatMap linesOf =
      markdownHead.map String.toList := by decide
  have hlines : linesOf ("\n".intercalate (markdownHead ++ written) ++ "\n").toList =
      markdownHead.map String.toList ++ (written.map String.toList).flatMap linesOf ++ [[]] := by
    rw [markdownHead, List.cons_append, toList_document, ← List.cons_append, ← markdownHead,
      linesOf_flatMap, List.map_append, List.flatMap_append, hhead]
  have hunbroken (h : ∀ line ∈ written, Unbroken line.toList) :
      (written.map String.toList).flatMap linesOf = written.map String.toList := by
    rw [List.flatMap_map, List.map_eq_flatMap]
    exact List.flatMap_congr fun line hline => linesOf_of_unbroken (h line hline)
  rw [Tabulates, hlines]
  constructor
  · rintro ⟨lines, heq, hrows⟩
    rw [List.append_left_inj, List.append_right_inj] at heq
    -- here as well the number of lines tells that none of them is broken
    have hcount : ((written.map String.toList).flatMap linesOf).length =
        (written.map String.toList).length := by
      rw [heq, ← hrows.length_eq, hlength, List.length_map]
    have hone := forall_length_eq_one
      (fun cs _ => List.splitOnP_ne_nil (p := endsLine) cs) hcount
    have hall : ∀ line ∈ written, Unbroken line.toList := fun line hline => by
      by_contra hbroken
      have htwo := two_le_length_linesOf hbroken
      have hsingle := hone _ (List.mem_map_of_mem hline)
      change (linesOf line.toList).length = 1 at hsingle
      omega
    rw [← heq, hunbroken hall, List.forall₂_map_right_iff] at hrows
    exact ⟨hall, hrows⟩
  · rintro ⟨hall, hrows⟩
    exact ⟨written.map String.toList, by rw [hunbroken hall], List.forall₂_map_right_iff.2 hrows⟩

/-- Rows that are listed are tabulated exactly if each of them is neutral. -/
theorem exists_tabulates_iff (hrows : ∀ row ∈ rows, Listed row) :
    (∃ text, markdown rows = .ok text ∧ Tabulates rows text) ↔ ∀ row ∈ rows, Neutral row := by
  constructor
  · rintro ⟨text, htext, htable⟩
    obtain ⟨written, hwritten, htext⟩ := bind_eq_ok.1 htext
    obtain rfl := pure_eq_ok.1 htext
    obtain ⟨hlength, hlines⟩ := List.forall₂_iff_zip.1 (mapM_eq_ok.1 hwritten)
    obtain ⟨hunbroken, hcells⟩ := (tabulates_iff hlength).1 htable
    have hneutral : List.Forall₂ (fun row line => Neutral row ∧ markdownLine row = .ok line)
        rows written := by
      refine List.forall₂_iff_zip.2 ⟨hlength, fun {row line} hmem => ⟨?_, hlines hmem⟩⟩
      obtain ⟨hrow, hline⟩ := List.of_mem_zip hmem
      exact (neutral_iff (hrows row hrow) (hlines hmem)).2
        ⟨hunbroken line hline, (List.forall₂_iff_zip.1 hcells).2 hmem⟩
    exact ((List.forall₂_and_left rows written).1 hneutral).1
  · intro hneutral
    have hwritten : ∃ written, rows.mapM markdownLine = .ok written := by
      refine exists_mapM_iff.2 fun row hrow => ?_
      obtain ⟨texts, htexts, -⟩ := (hneutral row hrow).cells
      exact ⟨_, (markdownLine_eq (hrows row hrow)).trans (congrArg (Except.map _) htexts)⟩
    obtain ⟨written, hwritten⟩ := hwritten
    obtain ⟨hlength, hlines⟩ := List.forall₂_iff_zip.1 (mapM_eq_ok.1 hwritten)
    refine ⟨_, bind_eq_ok.2 ⟨written, hwritten, rfl⟩, (tabulates_iff hlength).2 ⟨?_, ?_⟩⟩
    · intro line hline
      obtain ⟨row, hrow, hmade⟩ := exists_of_mem_of_mapM hwritten hline
      exact ((neutral_iff (hrows row hrow) hmade).1 (hneutral row hrow)).1
    · refine List.forall₂_iff_zip.2 ⟨hlength, fun {row line} hmem => ?_⟩
      have hrow := (List.of_mem_zip hmem).1
      exact ((neutral_iff (hrows row hrow) (hlines hmem)).1 (hneutral row hrow)).2

end Rows

/-- Every row of a summary is listed. -/
theorem listed_of_summaryRows {limit : Int} {route : Option String} {files : List File}
    {rows : List (Entries Value)} (h : summaryRows limit route files = .ok rows) :
    ∀ row ∈ rows, Listed row := by
  induction files generalizing limit rows with
  | nil =>
      rw [← Except.ok.inj h]
      exact List.forall_mem_nil _
  | cons f rest ih =>
      unfold summaryRows at h
      split at h
      · rw [← Except.ok.inj h]
        exact List.forall_mem_nil _
      · split at h
        · exact ih h
        · split at h
          · obtain ⟨row, hrow, h⟩ := bind_eq_ok.1 h
            obtain ⟨others, hothers, h⟩ := bind_eq_ok.1 h
            rw [← pure_eq_ok.1 h]
            refine List.forall_mem_cons.2 ⟨?_, ih hothers⟩
            obtain ⟨diff, -, hrow⟩ := bind_eq_ok.1 hrow
            obtain ⟨counts, -, hrow⟩ := bind_eq_ok.1 hrow
            rw [← pure_eq_ok.1 hrow]
            exact ⟨rfl, rfl⟩
          · exact ih h

/-- The summary is a table of its rows exactly if all of them are neutral: otherwise a cell takes a
bar or a line end of its own into the table, or there is no text at all. -/
theorem summary_tabulates_iff {c : Config} {d : Disk} {limit : Int} {route : Option String}
    {rows : List (Entries Value)} (h : summary c d limit route = .ok rows) :
    (∃ text, markdown rows = .ok text ∧ Tabulates rows text) ↔ ∀ row ∈ rows, Neutral row :=
  exists_tabulates_iff (listed_of_summaryRows h)

end Table

/-- An archive of one artifact. -/
def archiveOf (name content : String) : Disk where
  folders := []
  files := [⟨.of ("artifacts/" ++ name), content, 1⟩]
  failures := []

/-- An artifact on a route with an escaped bar in its name, and with a note on two lines. -/
def escapedBar : String :=
  "\x7b\"route\":\"a\\\\|b\",\"diff\":\x7b\"note\":\"one\\ntwo\"\x7d\x7d"

/-- An artifact on a route with a bar in its name. -/
def bareBar : String := "\x7b\"route\":\"a|b\"\x7d"

/-- The row of an artifact without counts. -/
def bareRow (file route note : String) : Entries Value :=
  [("file", .text file), ("route", .text route), ("table_name", .null), ("severity", .null),
    ("recordsTotal", .null), ("recordsFiltered", .null), ("data_length", .null),
    ("note", .text note)]

theorem readDocument_escapedBar : readDocument escapedBar =
    some [("route", .text "a\\|b"), ("diff", .map [("note", .text "one\ntwo")])] := by
  have hchars : escapedBar.toList = ['\x7b', '"', 'r', 'o', 'u', 't', 'e', '"', ':', '"', 'a', '\\',
      '\\', '|', 'b', '"', ',', '"', 'd', 'i', 'f', 'f', '"', ':', '\x7b', '"', 'n', 'o', 't', 'e',
      '"', ':', '"', 'o', 'n', 'e', '\\', 'n', 't', 'w', 'o', '"', '\x7d', '\x7d'] := by decide
  rw [readDocument, Json.read?, hchars]
  rfl

theorem readDocument_bareBar : readDocument bareBar = some [("route", .text "a|b")] := by
  have hchars : bareBar.toList = ['\x7b', '"', 'r', 'o', 'u', 't', 'e', '"', ':', '"', 'a', '|',
      'b', '"', '\x7d'] := by decide
  rw [readDocument, Json.read?, hchars]
  rfl

theorem summary_archiveOf {name content : String} {artifact row : Entries Value}
    (hfiles : Command.keeper.artifacts (archiveOf name content) = (archiveOf name content).files)
    (hread : readDocument content = some artifact)
    (hrow : summaryRow (Path.of ("artifacts/" ++ name)).name artifact = .ok row) :
    summary Command.keeper (archiveOf name content) 20 none = .ok [row] := by
  rw [summary, hfiles, archiveOf]
  simp only [summaryRows, hread, hrow, isOfRoute, if_true]
  rfl

/-- An escaped bar and a line end in a note leave the table as it is. -/
theorem summary_tabulates_escapedBar :
    summary Command.keeper (archiveOf "a.json" escapedBar) 20 none =
      .ok [bareRow "a.json" "a\\|b" "one\ntwo"] ∧
    ∃ text, markdown [bareRow "a.json" "a\\|b" "one\ntwo"] = .ok text ∧
      Tabulates [bareRow "a.json" "a\\|b" "one\ntwo"] text := by
  have hsummary : summary Command.keeper (archiveOf "a.json" escapedBar) 20 none =
      .ok [bareRow "a.json" "a\\|b" "one\ntwo"] :=
    summary_archiveOf (List.mergeSort_of_pairwise (by decide)) readDocument_escapedBar rfl
  refine ⟨hsummary, (summary_tabulates_iff hsummary).2 (List.forall_mem_singleton.2 ?_)⟩
  exact ⟨by decide, _, rfl, by decide⟩

/-- A bar in the name of a route makes one cell two, and a line end in the name of a file makes one
line two. -/
theorem not_tabulates_bareBar :
    (∃ rows text, summary Command.keeper (archiveOf "a.json" bareBar) 20 none = .ok rows ∧
      markdown rows = .ok text ∧ ¬ Tabulates rows text) ∧
    ∃ rows text, summary Command.keeper (archiveOf "a\nb.json" escapedBar) 20 none = .ok rows ∧
      markdown rows = .ok text ∧ ¬ Tabulates rows text := by
  have hlisted : ∀ file route note, ∀ row ∈ [bareRow file route note], Listed row :=
    fun _ _ _ => List.forall_mem_singleton.2 ⟨rfl, rfl⟩
  refine ⟨⟨[bareRow "a.json" "a|b" ""], _, ?_, rfl, fun htable => ?_⟩,
    ⟨[bareRow "a\nb.json" "a\\|b" "one\ntwo"], _, ?_, rfl, fun htable => ?_⟩⟩
  · exact summary_archiveOf (List.mergeSort_of_pairwise (by decide)) readDocument_bareBar rfl
  · obtain ⟨-, texts, htexts, hbars⟩ :=
      (exists_tabulates_iff (hlisted _ _ _)).1 ⟨_, rfl, htable⟩ _ (List.mem_singleton_self _)
    obtain rfl := Except.ok.inj htexts
    exact absurd (hbars "a|b" (by decide)) (by decide)
  · exact summary_archiveOf (List.mergeSort_of_pairwise (by decide)) readDocument_escapedBar rfl
  · obtain ⟨hfile, -⟩ :=
      (exists_tabulates_iff (hlisted _ _ _)).1 ⟨_, rfl, htable⟩ _ (List.mem_singleton_self _)
    exact absurd hfile (by decide)

end AdminGrid.Inspector
