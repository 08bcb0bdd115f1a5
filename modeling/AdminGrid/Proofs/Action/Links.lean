import AdminGrid.Proofs.Markup
import AdminGrid.Text.Split
import Mathlib.Data.List.Induction

/-!
# The links of an action cell

A link is an attribute of a tag.  What reads like the beginning of one may also stand at the end of
a quoted value, where the closing quote completes it: markup does not take it for a link there.  A
deleted row has one link for each button of the deletion, which leads to the restoration; any other
row has one link for each button, in their order.
-/

namespace AdminGrid

/-- How a link begins, up to its opening quote. -/
def linkHead : List Char := " href=".toList

/-- A place of a text that reads like the beginning of a link: whether it stands inside a quoted
value, and what follows it up to the next quote. -/
structure LinkMark where
  quoted : Bool
  target : String
  deriving DecidableEq

/-- The places of a list that read like the beginning of a link, where the list starts inside or
outside a quoted value. -/
def linkMarksFrom (quoted : Bool) : List Char → List LinkMark
  | [] => []
  | c :: rest =>
      ((Text.dropHead? (linkHead ++ ['"']) (c :: rest)).map fun after =>
        LinkMark.mk quoted (String.ofList (after.takeWhile (· != '"')))).toList ++
      linkMarksFrom (quoted != (c == '"')) rest

/-- The places of a text that read like the beginning of a link. -/
def linkMarks (s : String) : List LinkMark := linkMarksFrom false s.toList

/-- Where the links of a text lead: the places outside of quoted values. -/
def links (s : String) : List String :=
  ((linkMarks s).filter fun m => !m.quoted).map (·.target)

/-- Whether a text ends as a link begins. -/
def EndsAsLink (s : String) : Prop := linkHead <:+ s.toList

instance (s : String) : Decidable (EndsAsLink s) := inferInstanceAs (Decidable (_ <:+ _))

section Reading

variable {a b : List Char}

theorem takeWhile_of_dropHead? {cs after : List Char}
    (h : Text.dropHead? (linkHead ++ ['"']) cs = some after) :
    cs.takeWhile (· != '"') = linkHead ∧ cs.dropWhile (· != '"') = '"' :: after := by
  rw [Text.dropHead?_eq_some_iff.1 h, List.append_assoc]
  exact ⟨rfl, rfl⟩

theorem takeWhile_quote (h : '"' ∉ a) (cs : List Char) :
    (a ++ cs).takeWhile (· != '"') = a ++ cs.takeWhile (· != '"') := by
  refine List.takeWhile_append_of_pos fun c hc => ?_
  simpa using fun hquote : c = '"' => h (hquote ▸ hc)

theorem dropHead?_append_quote (h : '"' ∉ a) (b : List Char) :
    Text.dropHead? (linkHead ++ ['"']) (a ++ '"' :: b) = if linkHead = a then some b else none := by
  by_cases ha : linkHead = a
  · rw [if_pos ha, Text.dropHead?_eq_some_iff, ← ha, List.append_assoc]
    rfl
  · rw [if_neg ha, Option.eq_none_iff_forall_ne_some]
    intro after hafter
    have htake := (takeWhile_of_dropHead? hafter).1
    rw [takeWhile_quote h] at htake
    exact ha (by simpa using htake.symm)

theorem dropHead?_append_close (h : '"' ∉ a) (b : List Char) :
    Text.dropHead? (linkHead ++ ['"']) (a ++ '>' :: b) = none := by
  rw [Option.eq_none_iff_forall_ne_some]
  intro after hafter
  have htake := (takeWhile_of_dropHead? hafter).1
  have hclose : '>' ∈ linkHead := by
    rw [← htake, takeWhile_quote h, List.takeWhile_cons_of_pos (by decide)]
    exact List.mem_append_right _ List.mem_cons_self
  exact absurd hclose (by decide)

/-- Up to the next quote nothing reads like the beginning of a link but what stands before it. -/
theorem linkMarksFrom_append_quote (quoted : Bool) (h : '"' ∉ a) (b : List Char) :
    linkMarksFrom quoted (a ++ '"' :: b) =
      (if linkHead <:+ a then [⟨quoted, String.ofList (b.takeWhile (· != '"'))⟩] else []) ++
        linkMarksFrom (!quoted) b := by
  induction a with
  | nil =>
      have hnone := dropHead?_append_quote h b
      rw [if_neg (by decide), List.nil_append] at hnone
      rw [List.nil_append, linkMarksFrom, hnone, if_neg (by decide)]
      cases quoted <;> rfl
  | cons c a ih =>
      obtain ⟨hc, ha⟩ : c ≠ '"' ∧ '"' ∉ a := by simpa [eq_comm] using h
      have hfirst := dropHead?_append_quote h b
      rw [List.cons_append] at hfirst ⊢
      rw [linkMarksFrom, hfirst, beq_false_of_ne hc, Bool.bne_false, ih ha, ← List.append_assoc]
      congr 1
      simp only [List.suffix_cons_iff]
      by_cases hhead : linkHead = c :: a
      · -- what begins here cannot begin a second time further on, where less is left
        have hlater : ¬ linkHead <:+ a := fun hsuffix => by
          have := hsuffix.length_le
          rw [hhead, List.length_cons] at this
          omega
        simp [hhead, hhead ▸ hlater]
      · simp [hhead]

/-- Behind the end of a tag the reading starts anew. -/
theorem linkMarksFrom_append_close (quoted : Bool) (h : '"' ∉ a) (b : List Char) :
    linkMarksFrom quoted (a ++ '>' :: b) = linkMarksFrom quoted b := by
  induction a with
  | nil =>
      have hnone := dropHead?_append_close h b
      rw [List.nil_append] at hnone ⊢
      rw [linkMarksFrom, hnone]
      cases quoted <;> rfl
  | cons c a ih =>
      obtain ⟨hc, ha⟩ : c ≠ '"' ∧ '"' ∉ a := by simpa [eq_comm] using h
      have hnone := dropHead?_append_close h b
      rw [List.cons_append] at hnone ⊢
      rw [linkMarksFrom, hnone, beq_false_of_ne hc, Bool.bne_false, ih ha]
      rfl

end Reading

section Attributes

/-- Attributes as they stand in markup, each by what stands before its quoted value and by the
value. -/
def attributes (as : List (String × String)) : String :=
  String.join (as.map fun a => a.1 ++ "\"" ++ a.2 ++ "\"")

/-- Whether neither an attribute nor its value holds a quote. -/
def NoQuote (a : String × String) : Prop := '"' ∉ a.1.toList ∧ '"' ∉ a.2.toList

theorem toList_attributes_cons (a : String × String) (as : List (String × String)) :
    (attributes (a :: as)).toList =
      a.1.toList ++ '"' :: (a.2.toList ++ '"' :: (attributes as).toList) := by
  have hquote : "\"".toList = ['"'] := rfl
  simp only [attributes, List.map_cons, String.join_cons, String.toList_append, hquote,
    List.append_assoc, List.cons_append, List.nil_append]

theorem linkMarksFrom_attribute {key value : String} (h : NoQuote (key, value))
    (rest : List Char) :
    ∃ target, linkMarksFrom false (key.toList ++ '"' :: (value.toList ++ '"' :: rest)) =
      (if EndsAsLink key then [⟨false, value⟩] else []) ++
        ((if EndsAsLink value then [⟨true, target⟩] else []) ++ linkMarksFrom false rest) := by
  have hvalue : (value.toList ++ '"' :: rest).takeWhile (· != '"') = value.toList := by
    rw [takeWhile_quote h.2]
    simp
  refine ⟨String.ofList (rest.takeWhile (· != '"')), ?_⟩
  rw [linkMarksFrom_append_quote false h.1, Bool.not_false, linkMarksFrom_append_quote true h.2,
    Bool.not_true, hvalue, String.ofList_toList]
  rfl

/-- The links in front of a text are those of the attributes that are links. -/
theorem links_attributes_append {as : List (String × String)} (h : ∀ a ∈ as, NoQuote a)
    (rest : List Char) :
    ((linkMarksFrom false ((attributes as).toList ++ rest)).filter fun m => !m.quoted).map
        (·.target) =
      (as.filter fun a => EndsAsLink a.1).map (·.2) ++
        ((linkMarksFrom false rest).filter fun m => !m.quoted).map (·.target) := by
  induction as with
  | nil => rfl
  | cons a as ih =>
      obtain ⟨ha, has⟩ := List.forall_mem_cons.1 h
      obtain ⟨target, hmarks⟩ := linkMarksFrom_attribute ha ((attributes as).toList ++ rest)
      rw [toList_attributes_cons, List.append_assoc, List.cons_append, List.append_assoc,
        List.cons_append, hmarks, List.filter_append, List.filter_append, List.map_append,
        List.map_append, ih has]
      by_cases hkey : EndsAsLink a.1 <;> by_cases hvalue : EndsAsLink a.2 <;> simp [hkey, hvalue]

/-- What reads like a link inside of the values in front of a text are the values that end so. -/
theorem countP_attributes_append {as : List (String × String)} (h : ∀ a ∈ as, NoQuote a)
    (rest : List Char) :
    (linkMarksFrom false ((attributes as).toList ++ rest)).countP (·.quoted) =
      (as.countP fun a => EndsAsLink a.2) + (linkMarksFrom false rest).countP (·.quoted) := by
  induction as with
  | nil => simp [attributes]
  | cons a as ih =>
      obtain ⟨ha, has⟩ := List.forall_mem_cons.1 h
      obtain ⟨target, hmarks⟩ := linkMarksFrom_attribute ha ((attributes as).toList ++ rest)
      rw [toList_attributes_cons, List.append_assoc, List.cons_append, List.append_assoc,
        List.cons_append, hmarks, List.countP_append, List.countP_append, ih has, List.countP_cons]
      by_cases hkey : EndsAsLink a.1 <;> by_cases hvalue : EndsAsLink a.2 <;>
        simp [hkey, hvalue] <;> omega

end Attributes

section Endings

variable {c : Char} {m cs : List Char}

theorem suffix_append_cons_iff (h : c ∉ m) (xs ys : List Char) :
    m <:+ xs ++ c :: ys ↔ m <:+ ys := by
  refine ⟨fun hm => ?_, fun hm => hm.trans ⟨xs ++ [c], by simp⟩⟩
  rcases List.suffix_or_suffix_of_suffix hm (List.suffix_append xs (c :: ys)) with hin | hout
  · rcases List.suffix_cons_iff.1 hin with heq | hsuffix
    · exact absurd (heq ▸ List.mem_cons_self) h
    · exact hsuffix
  · exact absurd (hout.subset List.mem_cons_self) h

theorem concat_suffix_concat_iff {c d : Char} :
    m ++ [c] <:+ cs ++ [d] ↔ c = d ∧ m <:+ cs := by
  rw [List.suffix_concat_iff]
  simp [and_comm]

theorem escapeChar_cases (c : Char) :
    Text.escapeChar c = [c] ∨ ∃ front, Text.escapeChar c = front ++ [';'] := by
  unfold Text.escapeChar
  repeat' split
  · exact Or.inr ⟨"&amp".toList, rfl⟩
  · exact Or.inr ⟨"&lt".toList, rfl⟩
  · exact Or.inr ⟨"&gt".toList, rfl⟩
  · exact Or.inr ⟨"&quot".toList, rfl⟩
  · exact Or.inr ⟨"&#x27".toList, rfl⟩
  · exact Or.inl rfl

/-- An escaped text ends with plain characters exactly if the text does. -/
theorem suffix_flatMap_escapeChar_iff (hm : ∀ c ∈ m, c ≠ ';' ∧ Text.escapeChar c = [c]) :
    m <:+ cs.flatMap Text.escapeChar ↔ m <:+ cs := by
  -- from the last character to the first
  induction m using List.reverseRecOn generalizing cs with
  | nil => simp
  | append_singleton m c ih =>
      obtain ⟨hfront, hmark, hplain⟩ : (∀ d ∈ m, d ≠ ';' ∧ Text.escapeChar d = [d]) ∧
          c ≠ ';' ∧ Text.escapeChar c = [c] :=
        ⟨fun d hd => hm d (List.mem_append_left _ hd), hm c (by simp)⟩
      rcases List.eq_nil_or_concat cs with rfl | ⟨cs, d, rfl⟩
      · simp
      · rw [List.concat_eq_append, List.flatMap_append, List.flatMap_singleton,
          concat_suffix_concat_iff]
        rcases escapeChar_cases d with hd | ⟨front, hd⟩
        · rw [hd, concat_suffix_concat_iff, ih hfront]
        · rw [hd, ← List.append_assoc, concat_suffix_concat_iff]
          refine iff_of_false (fun h => hmark h.1) fun ⟨hcd, _⟩ => hmark ?_
          rw [← hcd, hplain] at hd
          have hlast := congrArg List.getLast? hd
          rwa [List.getLast?_singleton, List.getLast?_concat, Option.some_inj] at hlast

theorem endsAsLink_escape_iff (s : String) : EndsAsLink (Text.escape s) ↔ EndsAsLink s := by
  have hplain : linkHead.all (fun c => c != ';' && Text.escapeChar c == [c]) = true := by decide
  rw [EndsAsLink, Text.escape, String.toList_ofList]
  exact suffix_flatMap_escapeChar_iff (by simpa using hplain)

/-- What stands before a character that no link begins with has no part in the ending. -/
theorem endsAsLink_append_iff {s : String} (h : ∃ front, s.toList = front ++ [c])
    (hc : c ∉ linkHead) (t : String) : EndsAsLink (s ++ t) ↔ EndsAsLink t := by
  obtain ⟨front, hs⟩ := h
  rw [EndsAsLink, String.toList_append, hs, List.append_assoc]
  exact suffix_append_cons_iff hc front t.toList

/-- What stands before a text with such a character has no part in the ending either. -/
theorem endsAsLink_append_of_mem {t : String} (h : c ∈ t.toList) (hc : c ∉ linkHead) (s : String) :
    EndsAsLink (s ++ t) ↔ EndsAsLink t := by
  obtain ⟨front, back, ht⟩ := List.append_of_mem h
  rw [EndsAsLink, EndsAsLink, String.toList_append, ht, ← List.append_assoc,
    suffix_append_cons_iff hc, suffix_append_cons_iff hc]

end Endings

/-- What a text tells of links in front of any other: where its own lead, and the values in it that
may end as a link begins. -/
structure Leads (s : String) (targets values : List String) : Prop where
  targets (rest : List Char) :
    ((linkMarksFrom false (s.toList ++ rest)).filter fun m => !m.quoted).map (·.target) =
      targets ++ ((linkMarksFrom false rest).filter fun m => !m.quoted).map (·.target)
  values (rest : List Char) : (linkMarksFrom false (s.toList ++ rest)).countP (·.quoted) =
    values.countP (EndsAsLink ·) + (linkMarksFrom false rest).countP (·.quoted)

section Leading

variable {s t : String} {targets targets' values values' : List String}

theorem Leads.append (hs : Leads s targets values) (ht : Leads t targets' values') :
    Leads (s ++ t) (targets ++ targets') (values ++ values') where
  targets rest := by
    rw [String.toList_append, List.append_assoc, hs.targets, ht.targets, List.append_assoc]
  values rest := by
    rw [String.toList_append, List.append_assoc, hs.values, ht.values, List.countP_append,
      Nat.add_assoc]

theorem Leads.congr (hs : Leads s targets values) (htargets : targets = targets')
    (hvalues : values.countP (EndsAsLink ·) = values'.countP (EndsAsLink ·)) :
    Leads s targets' values' :=
  ⟨htargets ▸ hs.targets, fun rest => hvalues ▸ hs.values rest⟩

theorem leads_empty : Leads "" [] [] := ⟨fun _ => rfl, fun _ => by simp⟩

theorem leads_attributes {as : List (String × String)} (has : ∀ a ∈ as, NoQuote a) :
    Leads (attributes as) ((as.filter fun a => EndsAsLink a.1).map (·.2)) (as.map (·.2)) where
  targets rest := links_attributes_append has rest
  values rest := by
    rw [countP_attributes_append has, List.countP_map]
    rfl

/-- What follows the last attribute leads nowhere. -/
theorem leads_close (tail : List Char) (hs : s.toList = tail ++ ['>']) (htail : '"' ∉ tail) :
    Leads s [] [] where
  targets rest := by
    rw [hs, List.append_assoc, List.singleton_append, linkMarksFrom_append_close false htail]
    rfl
  values rest := by
    rw [hs, List.append_assoc, List.singleton_append, linkMarksFrom_append_close false htail]
    simp

theorem Leads.links_eq (hs : Leads s targets values) : links s = targets := by
  simpa [links, linkMarks, linkMarksFrom] using hs.targets []

/-- Nothing but the links reads like one exactly if no value ends as a link begins. -/
theorem Leads.map_linkMarks_eq_iff (hs : Leads s targets values) :
    (linkMarks s).map (·.target) = targets ↔ ∀ value ∈ values, ¬ EndsAsLink value := by
  have hcount : (linkMarks s).countP (·.quoted) = values.countP (EndsAsLink ·) := by
    simpa [linkMarks, linkMarksFrom] using hs.values []
  have hzero : (∀ value ∈ values, ¬ EndsAsLink value) ↔ (linkMarks s).countP (·.quoted) = 0 := by
    simp [hcount, List.countP_eq_zero]
  rw [hzero, ← hs.links_eq, links]
  constructor
  · intro hmap
    have hlength := congrArg List.length hmap
    have hparts :=
      List.length_eq_countP_add_countP (fun m : LinkMark => m.quoted) (l := linkMarks s)
    simp only [List.length_map, ← List.countP_eq_length_filter] at hlength
    simp only [Bool.not_eq_true, Bool.decide_eq_false] at hparts
    omega
  · intro hnone
    rw [List.filter_eq_self.2 fun m hm => ?_]
    simpa using List.countP_eq_zero.1 hnone m hm

end Leading

namespace Action

/-- Whether a button is that of the deletion. -/
def deletes (b : ActionButton) : Bool := !b.custom && b.name = "delete"

/-- Where the links of a row lead whose links start with a path. -/
def rowTargets (buttons : List ActionButton) (start : String) (restore : Bool) : List String :=
  if restore then
    (buttons.filter deletes).map fun _ => Text.escape start ++ "/restore_deleted"
  else (buttons.filter onRow).map fun b => Text.escape (start ++ "/" ++ b.name)

/-- The texts of a button with which a quoted value ends. -/
def closingTexts (restore : Bool) (b : ActionButton) : List String :=
  if b.custom then (if restore then [] else [b.name]) ++ [Text.lower b.name, b.icon]
  else if restore && deletes b then [] else [b.icon]

section Buttons

variable {href css title icon : String}

theorem endsAsLink_font_iff (icon : String) : EndsAsLink ("fa fa-" ++ icon) ↔ EndsAsLink icon :=
  endsAsLink_append_iff (c := '-') ⟨"fa fa".toList, rfl⟩ (by decide) icon

/-- What follows the first attributes of a button. -/
def buttonRest (title icon : String) : String :=
  attributes [(" data-placement=", "top"), (" data-original-title=", title),
    ("><i class=", "fa fa-" ++ icon)] ++ "></i></a>"

theorem linkButton_eq (href css title icon : String) : linkButton href css title icon =
    attributes [("<a href=", href), (" class=", css), (" data-toggle=", "tooltip")] ++
      buttonRest title icon := by
  have hcut : linkButton href css title icon =
      ("<a href=" ++ "\"") ++ href ++ ("\"" ++ " class=" ++ "\"") ++ css ++ "\"" ++
        ((" data-toggle=" ++ "\"" ++ "tooltip" ++ "\"" ++ " data-placement=" ++ "\"" ++ "top" ++
          "\"" ++ " data-original-title=" ++ "\"") ++ title ++
          ("\"" ++ "><i class=" ++ "\"" ++ "fa fa-") ++ icon ++ ("\"" ++ "></i></a>")) := rfl
  simp only [hcut, buttonRest, attributes, List.map_cons, List.map_nil, String.join_cons,
    String.join_nil, String.append_assoc, String.append_empty, -String.reduceAppend]

theorem disabledButton_eq (css title icon : String) : disabledButton css title icon =
    attributes [("<a class=", css), (" disabled readonly data-toggle=", "tooltip")] ++
      buttonRest title icon := by
  have hcut : disabledButton css title icon =
      ("<a class=" ++ "\"") ++ css ++ ("\"" ++ " disabled readonly") ++
        ((" data-toggle=" ++ "\"" ++ "tooltip" ++ "\"" ++ " data-placement=" ++ "\"" ++ "top" ++
          "\"" ++ " data-original-title=" ++ "\"") ++ title ++
          ("\"" ++ "><i class=" ++ "\"" ++ "fa fa-") ++ icon ++ ("\"" ++ "></i></a>")) := rfl
  have hkey : " disabled readonly data-toggle=" = " disabled readonly" ++ " data-toggle=" := rfl
  simp only [hcut, hkey, buttonRest, attributes, List.map_cons, List.map_nil, String.join_cons,
    String.join_nil, String.append_assoc, String.append_empty, -String.reduceAppend]

theorem leads_buttonRest (htitle : '"' ∉ title.toList) (hicon : '"' ∉ icon.toList) :
    Leads (buttonRest title icon) [] [title, icon] := by
  have has : ∀ a ∈ [(" data-placement=", "top"), (" data-original-title=", title),
      ("><i class=", "fa fa-" ++ icon)], NoQuote a := by
    simp [NoQuote, htitle, hicon]
  have hclose : Leads "></i></a>" [] [] := leads_close "></i></a".toList rfl (by decide)
  refine ((leads_attributes has).append hclose).congr ?_ ?_
  · simp +decide
  · simp +decide [List.countP_cons, endsAsLink_font_iff]

theorem leads_linkButton (hhref : '"' ∉ href.toList) (hcss : '"' ∉ css.toList)
    (htitle : '"' ∉ title.toList) (hicon : '"' ∉ icon.toList) (hplain : ¬ EndsAsLink css) :
    Leads (linkButton href css title icon) [href] [href, title, icon] := by
  have has : ∀ a ∈ [("<a href=", href), (" class=", css), (" data-toggle=", "tooltip")],
      NoQuote a := by
    simp [NoQuote, hhref, hcss]
  rw [linkButton_eq]
  refine ((leads_attributes has).append (leads_buttonRest htitle hicon)).congr ?_ ?_
  · simp +decide
  · simp +decide [List.countP_cons, hplain]

theorem leads_disabledButton (hcss : '"' ∉ css.toList) (htitle : '"' ∉ title.toList)
    (hicon : '"' ∉ icon.toList) (hplain : ¬ EndsAsLink css) :
    Leads (disabledButton css title icon) [] [title, icon] := by
  have has : ∀ a ∈ [("<a class=", css), (" disabled readonly data-toggle=", "tooltip")],
      NoQuote a := by
    simp [NoQuote, hcss]
  rw [disabledButton_eq]
  refine ((leads_attributes has).append (leads_buttonRest htitle hicon)).congr ?_ ?_
  · simp +decide
  · simp +decide [List.countP_cons, hplain]

end Buttons

section Kinds

variable {b : ActionButton}

theorem quote_not_mem_of_framed {s : String} (h : Framed [] s) : '"' ∉ s.toList :=
  fun hquote => absurd (List.filter_eq_nil_iff.1 h.1 '"' hquote) (by decide)

theorem quote_not_mem_escape (s : String) : '"' ∉ (Text.escape s).toList :=
  quote_not_mem_of_framed (framed_escape s)

theorem not_endsAsLink_escape_append {c : Char} {t : String} (h : c ∈ t.toList) (hc : c ∉ linkHead)
    (ht : ¬ EndsAsLink t) (s : String) : ¬ EndsAsLink (Text.escape (s ++ t)) := by
  rwa [endsAsLink_escape_iff, endsAsLink_append_of_mem h hc]

theorem not_endsAsLink_sizeClass (s : String) : ¬ EndsAsLink (Text.escape (s ++ " btn-xs")) :=
  not_endsAsLink_escape_append (c := '-') (by decide) (by decide) (by decide) s

theorem not_endsAsLink_kindClass {verb : String} (h : verb ∈ rowVerbs) (s : String) :
    ¬ EndsAsLink (Text.escape (s ++ (" btn_" ++ verb))) := by
  have hplain : ∀ verb ∈ rowVerbs, ¬ EndsAsLink (" btn_" ++ verb) := by decide
  exact not_endsAsLink_escape_append (c := '_') (by simp) (by decide) (hplain verb h) s

theorem endsAsLink_path_iff (start name : String) :
    EndsAsLink (start ++ "/" ++ name) ↔ EndsAsLink name :=
  endsAsLink_append_iff (c := '/') ⟨start.toList, by simp⟩ (by decide) name

theorem escape_append (s t : String) : Text.escape (s ++ t) = Text.escape s ++ Text.escape t := by
  simp [Text.escape, String.ofList_append]

/-- Where a button of a row leads. -/
def targetsOf (start : String) (restore : Bool) (b : ActionButton) : List String :=
  if restore then (if deletes b then [Text.escape start ++ "/restore_deleted"] else [])
  else [Text.escape (start ++ "/" ++ b.name)]

theorem leads_renderDelete (start : String) (restore : Bool) :
    Leads (renderDelete b start restore)
      [Text.escape start ++ if restore then "/restore_deleted" else "/delete"]
      (if restore then [] else [b.icon]) := by
  have hclass (color : String) :
      ¬ EndsAsLink (Text.escape ("btn btn-" ++ color ++ " btn-xs btn_delete")) :=
    not_endsAsLink_escape_append (c := '_') (by decide) (by decide) (by decide) _
  have hhref (action : String) (h : '"' ∉ action.toList) :
      '"' ∉ (Text.escape start ++ "/" ++ action).toList := by
    simp [quote_not_mem_escape, h]
  have hpath (action : String) :
      Text.escape start ++ "/" ++ action = Text.escape start ++ ("/" ++ action) :=
    String.append_assoc
  cases restore with
  | true =>
      refine (leads_linkButton (hhref _ (by decide)) (quote_not_mem_escape _) (by decide)
        (quote_not_mem_escape _) (hclass _)).congr (congrArg (fun path => [path]) (hpath _)) ?_
      simp +decide [endsAsLink_path_iff]
  | false =>
      refine (leads_linkButton (hhref _ (by decide)) (quote_not_mem_escape _) (by decide)
        (quote_not_mem_escape _) (hclass _)).congr (congrArg (fun path => [path]) (hpath _)) ?_
      simp +decide [List.countP_cons, endsAsLink_path_iff, endsAsLink_escape_iff]

theorem not_endsAsLink_verbTitle (verb : String) : ¬ EndsAsLink (verbTitle verb) := by
  unfold verbTitle
  split
  · decide
  · split <;> decide

theorem leads_renderButton_of_ne_delete (hrow : onRow b = true)
    (h : deletes b = false) (start : String) (restore : Bool) :
    Leads (renderButton b start restore) (targetsOf start restore b) (closingTexts restore b) := by
  have hother : (!b.custom && b.name = "delete") = false := h
  unfold renderButton targetsOf closingTexts
  rw [hother, h]
  cases hcustom : b.custom with
  | true =>
      cases restore with
      | true =>
          refine (leads_disabledButton (quote_not_mem_escape _) (quote_not_mem_escape _)
            (quote_not_mem_escape _) (by simp +decide)).congr rfl ?_
          simp [List.countP_cons, endsAsLink_escape_iff]
      | false =>
          refine (leads_linkButton (quote_not_mem_escape _) (quote_not_mem_escape _)
            (quote_not_mem_escape _) (quote_not_mem_escape _)
            (not_endsAsLink_sizeClass _)).congr rfl ?_
          simp [List.countP_cons, endsAsLink_escape_iff, endsAsLink_path_iff]
  | false =>
      have hverb : b.name ∈ rowVerbs := by simpa [onRow, hcustom] using hrow
      -- the three actions of a row end as no link begins, so only the icon may
      have hname : ¬ EndsAsLink b.name :=
        (by decide : ∀ verb ∈ rowVerbs, ¬ EndsAsLink verb) b.name hverb
      have htitle : '"' ∉ (verbTitle b.name).toList := quote_not_mem_of_framed (framed_verbTitle _)
      cases restore with
      | true =>
          refine (leads_disabledButton (quote_not_mem_escape _) htitle
            (quote_not_mem_escape _) (not_endsAsLink_kindClass hverb _)).congr rfl ?_
          simp [List.countP_cons, endsAsLink_escape_iff, not_endsAsLink_verbTitle]
      | false =>
          refine (leads_linkButton (quote_not_mem_escape _) (quote_not_mem_escape _) htitle
            (quote_not_mem_escape _) (not_endsAsLink_kindClass hverb _)).congr rfl ?_
          simp [List.countP_cons, endsAsLink_escape_iff, endsAsLink_path_iff,
            not_endsAsLink_verbTitle, hname]

/-- A button of a row leads where it should, and reads like a link beyond that only by the texts
with which its values end. -/
theorem leads_renderButton (hrow : onRow b = true) (start : String) (restore : Bool) :
    Leads (renderButton b start restore) (targetsOf start restore b) (closingTexts restore b) := by
  cases h : deletes b with
  | false => exact leads_renderButton_of_ne_delete hrow h start restore
  | true =>
      obtain ⟨hcustom, hname⟩ : b.custom = false ∧ b.name = "delete" := by simpa [deletes] using h
      have hrender : renderButton b start restore = renderDelete b start restore := if_pos h
      rw [hrender]
      refine (leads_renderDelete start restore).congr ?_ ?_
      · unfold targetsOf
        rw [h]
        cases restore with
        | true => rfl
        | false =>
            rw [hname, String.append_assoc, escape_append]
            rfl
      · cases restore <;> simp [closingTexts, hcustom, h]

end Kinds

/-- The buttons of a row lead where each of them does. -/
theorem leads_renderButtons {buttons : List ActionButton} (hrow : ∀ b ∈ buttons, onRow b = true)
    (start : String) (restore : Bool) :
    Leads (String.join (buttons.map fun b => renderButton b start restore))
      (buttons.flatMap (targetsOf start restore)) (buttons.flatMap (closingTexts restore)) := by
  induction buttons with
  | nil => exact leads_empty
  | cons b buttons ih =>
      obtain ⟨hb, hbuttons⟩ := List.forall_mem_cons.1 hrow
      rw [List.map_cons, String.join_cons, List.flatMap_cons, List.flatMap_cons]
      exact (leads_renderButton hb start restore).append (ih hbuttons)

theorem flatMap_targetsOf (buttons : List ActionButton) (start : String) (restore : Bool) :
    (buttons.filter onRow).flatMap (targetsOf start restore) =
      rowTargets buttons start restore := by
  unfold rowTargets
  cases restore with
  | false => exact (List.map_eq_flatMap ..).symm
  | true =>
      induction buttons with
      | nil => rfl
      | cons b buttons ih =>
          rw [if_pos rfl] at ih ⊢
          cases hdelete : deletes b with
          | true =>
              have hrow : onRow b = true := by simp_all [deletes, onRow, rowVerbs]
              rw [List.filter_cons_of_pos hrow, List.flatMap_cons, ih, targetsOf, if_pos rfl,
                if_pos hdelete, List.filter_cons_of_pos hdelete]
              rfl
          | false =>
              have hnone : targetsOf start true b = [] := by
                rw [targetsOf, if_pos rfl, if_neg (Bool.eq_false_iff.1 hdelete)]
              rw [List.filter_cons_of_neg (Bool.eq_false_iff.1 hdelete), ← ih]
              by_cases hrow : onRow b = true
              · rw [List.filter_cons_of_pos hrow, List.flatMap_cons, hnone, List.nil_append]
              · rw [List.filter_cons_of_neg hrow]

theorem leads_cellMarkup (buttons : List ActionButton) (start : String) (restore : Bool) :
    Leads (cellMarkup buttons start restore) (rowTargets buttons start restore)
      ((buttons.filter onRow).flatMap (closingTexts restore)) := by
  -- what stands around the buttons leads nowhere
  have has : ∀ a ∈ [("<div class=", "action-buttons-box"),
      ("><div class=", "hidden-sm hidden-xs action-buttons")], NoQuote a := by
    unfold NoQuote
    decide
  have hopen : Leads
      "<div class=\"action-buttons-box\"><div class=\"hidden-sm hidden-xs action-buttons\">"
      [] [] :=
    ((leads_attributes has).append (leads_close [] (s := ">") rfl (by decide))).congr
      (by decide) (by decide)
  have hclose : Leads "</div></div>" [] [] := leads_close "</div></div".toList rfl (by decide)
  rw [← flatMap_targetsOf]
  exact ((hopen.append (leads_renderButtons (fun b hb => (List.mem_filter.1 hb).2) _ _)).append
    hclose).congr (by simp) (by simp)

/-- A row that can be named has an action cell.  The links of the cell are one for each button of
the deletion where the row offers its restoration, and one for each button of the row in their order
where it does not.  Nothing else in the cell reads like a link exactly if no name, no title and no
icon in it ends as a link begins. -/
theorem links_of_action_cell (buttons : List ActionButton) {row : List (String × Value)}
    (basePath : String) {targetField id : String} (softDeleteField : Option String)
    (hid : rowId row targetField = .ok id) :
    let start := rowPath basePath id
    let restore := offersRestore row softDeleteField
    ∃ cell, render buttons row basePath targetField softDeleteField = .ok cell ∧
      links cell = rowTargets buttons start restore ∧
      ((linkMarks cell).map (·.target) = rowTargets buttons start restore ↔
        ∀ b ∈ buttons, onRow b = true → ∀ text ∈ closingTexts restore b, ¬ EndsAsLink text) := by
  intro start restore
  have hleads := leads_cellMarkup buttons start restore
  refine ⟨_, render_eq_ok_iff.2 ⟨id, hid, rfl⟩, hleads.links_eq,
    hleads.map_linkMarks_eq_iff.trans ?_⟩
  simp only [List.mem_flatMap, List.mem_filter, forall_exists_index, and_imp]
  exact ⟨fun h b hb hrow text htext => h text b hb hrow htext,
    fun h text b hb hrow htext => h b hb hrow text htext⟩

/-- The button of an order whose icon ends as a link begins. -/
def hrefIcon : List ActionButton := [⟨"view", "success", "eye href=", false⟩]

/-- An order that was deleted but is still kept. -/
def deletedOrder : List (String × Value) := [("id", .int 7), ("deleted_at", .text "2024-01-01")]

theorem rowId_deletedOrder : rowId deletedOrder "id" = .ok "7" :=
  Value.written_eq_ok_iff.2 ⟨Value.isWritable_int (lt_tenTo_maxDigits (by decide)), by decide⟩

/-- The deleted order has no link but the one of a deletion, if there is a button for it. -/
theorem links_of_action_cell_deletedOrder :
    rowId deletedOrder "id" = .ok "7" ∧ ∀ buttons : List ActionButton, ∃ cell,
      render buttons deletedOrder "/orders" "id" (some "deleted_at") = .ok cell ∧
        links cell = rowTargets buttons (rowPath "/orders" "7")
          (offersRestore deletedOrder (some "deleted_at")) := by
  refine ⟨rowId_deletedOrder, fun buttons => ?_⟩
  obtain ⟨cell, hcell, hlinks, -⟩ :=
    links_of_action_cell buttons "/orders" (some "deleted_at") rowId_deletedOrder
  exact ⟨cell, hcell, hlinks⟩

/-- A deleted order without a button for its deletion reads as if it had a link. -/
theorem not_links_alone_hrefIcon :
    offersRestore deletedOrder (some "deleted_at") = true ∧ ∃ cell,
      render hrefIcon deletedOrder "/orders" "id" (some "deleted_at") = .ok cell ∧
        ¬ (linkMarks cell).map (·.target) = rowTargets hrefIcon (rowPath "/orders" "7") true := by
  refine ⟨by decide, _, render_eq_ok_iff.2 ⟨"7", rowId_deletedOrder, rfl⟩, fun h => ?_⟩
  have hleads := leads_cellMarkup hrefIcon (rowPath "/orders" "7") true
  exact hleads.map_linkMarks_eq_iff.1 h "eye href=" (by decide) (by decide)

end Action

end AdminGrid
