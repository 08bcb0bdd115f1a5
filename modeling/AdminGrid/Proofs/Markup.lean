import AdminGrid.Action.Render
import AdminGrid.Cell.Image

/-!
# Markup of cells

Action cells and image cells are written as markup around texts of all kinds: names, colors and
icons of buttons, values of rows, paths and names of fields.  Every text is escaped where it is set
in, so that it adds no delimiter of a tag or an attribute.  The delimiters of an action cell are
told by the kinds of its buttons and by whether the row offers its restoration, those of an image
cell by whether the file is there.  Attributes stand in double quotes; a single quote occurs
nowhere.
-/

namespace AdminGrid

/-- Whether a character delimits a tag or an attribute. -/
def isDelimiter (c : Char) : Bool := c == '<' || c == '>' || c == '"'

/-- The delimiters of a text in their order. -/
def delimiters (s : String) : List Char := s.toList.filter isDelimiter

/-- Whether a text has exactly the given delimiters, and no single quote. -/
def Framed (ds : List Char) (s : String) : Prop := delimiters s = ds ∧ '\'' ∉ s.toList

instance (ds : List Char) (s : String) : Decidable (Framed ds s) :=
  inferInstanceAs (Decidable (_ ∧ _))

section Texts

variable {ds es : List Char} {s t : String}

@[simp]
theorem delimiters_append (s t : String) : delimiters (s ++ t) = delimiters s ++ delimiters t := by
  simp [delimiters]

@[simp]
theorem delimiters_empty : delimiters "" = [] := rfl

theorem Framed.append (hs : Framed ds s) (ht : Framed es t) : Framed (ds ++ es) (s ++ t) := by
  refine ⟨?_, ?_⟩
  · rw [delimiters_append, hs.1, ht.1]
  · have hboth : '\'' ∉ s.toList ∧ '\'' ∉ t.toList := ⟨hs.2, ht.2⟩
    simpa using hboth

theorem Framed.congr (h : ds = es) (hs : Framed ds s) : Framed es s := h ▸ hs

theorem framed_literal (h : '\'' ∉ s.toList) : Framed (delimiters s) s := ⟨rfl, h⟩

/-- An escaped text has no delimiters. -/
theorem framed_escape (s : String) : Framed [] (Text.escape s) := by
  have hmem : ∀ m ∈ ['<', '>', '"', '\''], m ∉ (Text.escape s).toList := fun m hm h => by
    obtain ⟨c, -, hc⟩ := List.mem_flatMap.1 (by simpa [Text.escape] using h)
    exact Text.not_mem_escapeChar hm hc
  refine ⟨List.filter_eq_nil_iff.2 fun c hc hdelimiter => ?_, hmem '\'' (by decide)⟩
  refine hmem c ?_ hc
  simp only [isDelimiter, Bool.or_eq_true, beq_iff_eq] at hdelimiter
  rcases hdelimiter with (rfl | rfl) | rfl <;> decide

@[simp]
theorem delimiters_escape (s : String) : delimiters (Text.escape s) = [] := (framed_escape s).1

end Texts

namespace Action

section Buttons

variable {href css title icon : String}

theorem framed_buttonTail (htitle : Framed [] title) (hicon : Framed [] icon) :
    Framed (delimiters (buttonTail "" "")) (buttonTail title icon) := by
  unfold buttonTail
  refine .congr ?_ (((((framed_literal ?_).append htitle).append (framed_literal ?_)).append
    hicon).append (framed_literal ?_))
  · simp only [delimiters_append, delimiters_empty, List.append_nil, -String.reduceAppend]
  all_goals simp

theorem framed_linkButton (hhref : Framed [] href) (hcss : Framed [] css)
    (htitle : Framed [] title) (hicon : Framed [] icon) :
    Framed (delimiters (linkButton "" "" "" "")) (linkButton href css title icon) := by
  unfold linkButton
  refine .congr ?_ ((((((framed_literal ?_).append hhref).append (framed_literal ?_)).append
    hcss).append (framed_literal ?_)).append (framed_buttonTail htitle hicon))
  · simp only [delimiters_append, delimiters_empty, List.append_nil, -String.reduceAppend]
  all_goals simp

theorem framed_disabledButton (hcss : Framed [] css) (htitle : Framed [] title)
    (hicon : Framed [] icon) :
    Framed (delimiters (disabledButton "" "" "")) (disabledButton css title icon) := by
  unfold disabledButton
  refine .congr ?_ ((((framed_literal ?_).append hcss).append (framed_literal ?_)).append
    (framed_buttonTail htitle hicon))
  · simp only [delimiters_append, delimiters_empty, List.append_nil, -String.reduceAppend]
  all_goals simp

end Buttons

/-- What a button is as far as its markup goes. -/
inductive ButtonKind where
  | custom
  | view
  | edit
  | delete
  | notShown
  deriving DecidableEq

/-- The kind of a button. -/
def ButtonKind.of (b : ActionButton) : ButtonKind :=
  if b.custom then .custom
  else if b.name = "view" then .view
  else if b.name = "edit" then .edit
  else if b.name = "delete" then .delete
  else .notShown

/-- The delimiters of a button on a row that does or does not offer its restoration. -/
def ButtonKind.frame (restore : Bool) : ButtonKind → List Char
  | .custom | .view | .edit =>
      delimiters (if restore then disabledButton "" "" "" else linkButton "" "" "" "")
  | .delete => delimiters (linkButton "" "" "" "")
  | .notShown => []

section Kinds

variable {b : ActionButton}

theorem onRow_iff : onRow b = true ↔ ButtonKind.of b ≠ .notShown := by
  unfold onRow ButtonKind.of rowVerbs
  cases b.custom with
  | true => simp
  | false =>
      by_cases hview : b.name = "view" <;> by_cases hedit : b.name = "edit" <;>
        by_cases hdelete : b.name = "delete" <;> simp [hview, hedit, hdelete]

theorem kind_eq_delete_iff : ButtonKind.of b = .delete ↔ b.custom = false ∧ b.name = "delete" := by
  unfold ButtonKind.of
  cases b.custom with
  | true => simp
  | false =>
      by_cases hdelete : b.name = "delete"
      · simp [hdelete]
      · by_cases hview : b.name = "view" <;> by_cases hedit : b.name = "edit" <;>
          simp [hview, hedit, hdelete]

theorem framed_verbTitle (verb : String) : Framed [] (verbTitle verb) := by
  unfold verbTitle
  split
  · decide
  · split <;> decide

theorem framed_renderDelete (start : String) (restore : Bool) :
    Framed (delimiters (linkButton "" "" "" "")) (renderDelete b start restore) := by
  have hslash : Framed [] "/" := by decide
  have haction : Framed [] (if restore then "restore_deleted" else "delete") := by
    cases restore <;> decide
  have htitle : Framed [] (if restore then "Restore" else "Delete") := by
    cases restore <;> decide
  exact framed_linkButton (((framed_escape start).append hslash).append haction)
    (framed_escape _) htitle (framed_escape _)

/-- Every button but that of the deletion loses its link on a row that offers its restoration. -/
theorem framed_renderButton_of_ne_delete (h : ButtonKind.of b ≠ .delete) (start : String)
    (restore : Bool) :
    Framed (delimiters (if restore then disabledButton "" "" "" else linkButton "" "" "" ""))
      (renderButton b start restore) := by
  have hother : (!b.custom && b.name = "delete") = false := by
    simpa [kind_eq_delete_iff] using h
  have htitle : Framed []
      (if b.custom then Text.escape (Text.lower b.name) else verbTitle b.name) := by
    split
    · exact framed_escape _
    · exact framed_verbTitle _
  -- both links and titles are escaped as a whole, whatever they are put together from
  unfold renderButton
  rw [hother]
  cases restore with
  | true => exact framed_disabledButton (framed_escape _) htitle (framed_escape _)
  | false => exact framed_linkButton (framed_escape _) (framed_escape _) htitle (framed_escape _)

theorem framed_renderButton (h : onRow b = true) (start : String) (restore : Bool) :
    Framed ((ButtonKind.of b).frame restore) (renderButton b start restore) := by
  cases hkind : ButtonKind.of b with
  | custom => exact framed_renderButton_of_ne_delete (by simp [hkind]) start restore
  | view => exact framed_renderButton_of_ne_delete (by simp [hkind]) start restore
  | edit => exact framed_renderButton_of_ne_delete (by simp [hkind]) start restore
  | delete =>
      obtain ⟨hcustom, hname⟩ := kind_eq_delete_iff.1 hkind
      have hrender : renderButton b start restore = renderDelete b start restore := by
        simp [renderButton, hcustom, hname]
      rw [hrender]
      exact framed_renderDelete start restore
  | notShown => exact absurd hkind (onRow_iff.1 h)

end Kinds

/-- The delimiters of the buttons of a row, of which those not shown have none. -/
theorem framed_renderButtons (buttons : List ActionButton) (start : String) (restore : Bool) :
    Framed ((buttons.map ButtonKind.of).flatMap (ButtonKind.frame restore))
      (String.join ((buttons.filter onRow).map fun b => renderButton b start restore)) := by
  induction buttons with
  | nil => exact ⟨rfl, by simp⟩
  | cons b buttons ih =>
      rw [List.map_cons, List.flatMap_cons]
      by_cases h : onRow b = true
      · rw [List.filter_cons_of_pos h, List.map_cons, String.join_cons]
        exact (framed_renderButton h start restore).append ih
      · -- the kinds tell of every button, so one that is not shown must add nothing
        have hnone : (ButtonKind.of b).frame restore = [] := by
          rw [Decidable.of_not_not (mt onRow_iff.2 h)]
          rfl
        rw [List.filter_cons_of_neg h, hnone]
        exact ih

/-- The delimiters of an action cell. -/
def cellFrame (restore : Bool) (kinds : List ButtonKind) : List Char :=
  "<\"\"><\"\">".toList ++ kinds.flatMap (ButtonKind.frame restore) ++ "<><>".toList

theorem framed_render {buttons : List ActionButton} {row : List (String × Value)}
    {basePath targetField cell : String} {softDeleteField : Option String}
    (h : render buttons row basePath targetField softDeleteField = .ok cell) :
    Framed (cellFrame (offersRestore row softDeleteField) (buttons.map ButtonKind.of)) cell := by
  obtain ⟨id, -, rfl⟩ := render_eq_ok_iff.1 h
  refine (Framed.append ?_ (framed_renderButtons buttons _ _)).append ?_ <;> decide

end Action

namespace Cell

theorem framed_missingFileNote (path : String) :
    Framed (delimiters (missingFileNote "")) (missingFileNote path) := by
  have hname := framed_escape (lastSegment path)
  unfold missingFileNote
  refine .congr ?_ (((((framed_literal ?_).append hname).append (framed_literal ?_)).append
    hname).append (framed_literal ?_))
  · simp only [delimiters_append, delimiters_escape, List.append_nil]
  all_goals simp

theorem framed_imageTag (src alt : String) :
    Framed (delimiters (imageTag "" "")) (imageTag src alt) := by
  unfold imageTag
  refine .congr ?_ (((((framed_literal ?_).append (framed_escape src)).append
    (framed_literal ?_)).append (framed_escape alt)).append (framed_literal ?_))
  · simp only [delimiters_append, delimiters_escape, List.append_nil]
  all_goals simp

/-- The delimiters of an image cell whose file is or is not there. -/
def imageFrame : Bool → List Char
  | true => delimiters (imageTag "" "")
  | false => delimiters (missingFileNote "")

theorem not_isBlank_of_namesImage {cell : Value} (h : namesImage cell.cellText = true) :
    cell.isBlank = false := by
  rw [Bool.eq_false_iff]
  intro hblank
  cases cell with
  | null => exact absurd h (by decide)
  | text s => exact absurd (beq_iff_eq.1 hblank ▸ h) (by decide)
  | _ => exact absurd hblank (by simp [Value.isBlank])

theorem framed_renderImage {cell : Value} (h : namesImage cell.cellText = true) (assets : Assets)
    (field : String) (row : List (String × Value)) :
    Framed (imageFrame (assets.has cell.cellText)) (renderImage assets field cell row) := by
  simp only [renderImage, not_isBlank_of_namesImage h, h]
  cases assets.has cell.cellText with
  | true => exact framed_imageTag _ _
  | false => exact framed_missingFileNote _

end Cell

/-- Nothing breaks out of an action cell or an image cell: neither holds a single quote, and two
action cells with buttons of the same kinds have the same delimiters when both rows or none offer
their restoration, two image cells when both files or none are there, whatever the texts. -/
theorem cell_texts_add_no_markup :
    (∀ buttons others row row' basePath basePath' target target' softDelete softDelete',
      buttons.map Action.ButtonKind.of = others.map Action.ButtonKind.of →
      Action.offersRestore row softDelete = Action.offersRestore row' softDelete' →
      ∀ cell cell', Action.render buttons row basePath target softDelete = .ok cell →
        Action.render others row' basePath' target' softDelete' = .ok cell' →
          delimiters cell = delimiters cell') ∧
    (∀ buttons row basePath target softDelete cell,
      Action.render buttons row basePath target softDelete = .ok cell → '\'' ∉ cell.toList) ∧
    (∀ assets assets' field field' cell cell' row row',
      Cell.namesImage cell.cellText = true → Cell.namesImage cell'.cellText = true →
      assets.has cell.cellText = assets'.has cell'.cellText →
      delimiters (Cell.renderImage assets field cell row) =
        delimiters (Cell.renderImage assets' field' cell' row')) ∧
    (∀ assets field cell row, Cell.namesImage cell.cellText = true →
      '\'' ∉ (Cell.renderImage assets field cell row).toList) := by
  refine ⟨?_, ?_, ?_, ?_⟩
  · intro buttons others row row' basePath basePath' target target' softDelete softDelete' hkinds
      hrestore cell cell' hcell hcell'
    rw [(Action.framed_render hcell).1, (Action.framed_render hcell').1, hkinds, hrestore]
  · intro buttons row basePath target softDelete cell hcell
    exact (Action.framed_render hcell).2
  · intro assets assets' field field' cell cell' row row' himage himage' hfile
    rw [(Cell.framed_renderImage himage ..).1, (Cell.framed_renderImage himage' ..).1, hfile]
  · intro assets field cell row himage
    exact (Cell.framed_renderImage himage ..).2

/-- A deletion and a button of an owner, whose texts try to close their tags. -/
def scriptedButtons : List ActionButton :=
  [⟨"delete", "\"><script>", "'\">", false⟩, ⟨"<b onclick='x'>", "", "<i>", true⟩]

/-- A deletion and a button of an owner as they are usually described. -/
def plainButtons : List ActionButton :=
  [⟨"delete", "danger", "times", false⟩, ⟨"export", "default", "link", true⟩]

/-- A deleted row whose values try to close the tags around them. -/
def scriptedRow : List (String × Value) :=
  [("id", .text "1\"><a href='x'>"), ("deleted_at", .text "<p>")]

theorem cell_texts_add_no_markup_scripted :
    (scriptedButtons.map Action.ButtonKind.of = plainButtons.map Action.ButtonKind.of ∧
      Action.offersRestore scriptedRow (some "deleted_at") =
        Action.offersRestore [("removed", .int 1)] (some "removed") ∧
      ∃ cell cell',
        Action.render scriptedButtons scriptedRow "/x\"/" "id" (some "deleted_at") = .ok cell ∧
        Action.render plainButtons [("removed", .int 1)] "/users" "id" (some "removed") =
          .ok cell' ∧
        delimiters cell = delimiters cell' ∧ '\'' ∉ cell.toList) ∧
    Cell.namesImage "<b\">.png" = true ∧ Cell.namesImage "logo.png" = true ∧
      (Cell.Assets.ofPaths ["<b\">.png"]).has "<b\">.png" =
        (Cell.Assets.ofPaths ["logo.png"]).has "logo.png" ∧
      delimiters (Cell.renderImage (.ofPaths ["<b\">.png"]) "'icon>" (.text "<b\">.png") []) =
        delimiters (Cell.renderImage (.ofPaths ["logo.png"]) "logo" (.text "logo.png") []) ∧
      '\'' ∉
        (Cell.renderImage (.ofPaths ["<b\">.png"]) "'icon>" (.text "<b\">.png") []).toList := by
  obtain ⟨haction, hquote, himage, himageQuote⟩ := cell_texts_add_no_markup
  have hkinds : scriptedButtons.map Action.ButtonKind.of =
      plainButtons.map Action.ButtonKind.of := by decide
  have hrestore : Action.offersRestore scriptedRow (some "deleted_at") =
      Action.offersRestore [("removed", .int 1)] (some "removed") := by decide
  have hscripted : Cell.namesImage "<b\">.png" = true := by decide
  have hlogo : Cell.namesImage "logo.png" = true := by decide
  have hfiles : (Cell.Assets.ofPaths ["<b\">.png"]).has "<b\">.png" =
      (Cell.Assets.ofPaths ["logo.png"]).has "logo.png" := by decide
  obtain ⟨cell, hcell⟩ : ∃ cell,
      Action.render scriptedButtons scriptedRow "/x\"/" "id" (some "deleted_at") = .ok cell :=
    ⟨_, rfl⟩
  obtain ⟨cell', hcell'⟩ : ∃ cell,
      Action.render plainButtons [("removed", .int 1)] "/users" "id" (some "removed") = .ok cell :=
    ⟨_, rfl⟩
  exact ⟨⟨hkinds, hrestore, cell, cell', hcell, hcell',
      haction _ _ _ _ _ _ _ _ _ _ hkinds hrestore cell cell' hcell hcell',
      hquote _ _ _ _ _ cell hcell⟩,
    hscripted, hlogo, hfiles, himage _ _ _ _ _ _ _ _ hscripted hlogo hfiles,
    himageQuote _ _ _ _ hscripted⟩

end AdminGrid
