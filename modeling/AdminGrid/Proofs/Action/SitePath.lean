import AdminGrid.Action.BasePath
import AdminGrid.Proofs.Action.Links
import AdminGrid.Proofs.Text.Trim

/-!
# Base paths as places of the site

A base path is a place of the site if it starts with one slash, and ends neither with a slash nor
with an action.  One action and the slashes at the end are dropped, so a second action stays, and
so does an action before several slashes.  Slashes in front are dropped of a path of the site, but
not of the path of a page or of a name.
-/

namespace AdminGrid.Action

/-- Whether a link stays on the site that shows it: with a second slash in front it names a host. -/
def SiteRelative (link : String) : Prop := link.toList[0]? = some '/' ∧ link.toList[1]? ≠ some '/'

instance (link : String) : Decidable (SiteRelative link) := inferInstanceAs (Decidable (_ ∧ _))

/-- What the base path of a table looks like as a place of the site. -/
structure SitePath (path : String) : Prop where
  start : SiteRelative path
  finish : path.toList.getLast? ≠ some '/'
  place : ∀ action ∈ actionSegments, ¬ '/' :: action.toList <:+ path.toList

instance (path : String) : Decidable (SitePath path) :=
  decidable_of_iff (SiteRelative path ∧ path.toList.getLast? ≠ some '/' ∧
      ∀ action ∈ actionSegments, ¬ '/' :: action.toList <:+ path.toList)
    ⟨fun h => ⟨h.1, h.2.1, h.2.2⟩, fun h => ⟨h.1, h.2, h.3⟩⟩

/-- What a path loses as its trailing action. -/
def actionEnds : List (List Char) :=
  actionSegments.flatMap fun action => ['/' :: action.toList, '/' :: action.toList ++ ['/']]

/-- Whether a path ends with an action even without its trailing action and slashes: the action
stands before several slashes or before another action. -/
def LeavesAction (path : String) : Prop :=
  ∃ front, ∃ action ∈ actionSegments, ∃ n,
    path.toList = front ++ '/' :: action.toList ++ List.replicate (n + 2) '/' ∨
      ∃ tail ∈ actionEnds,
        path.toList = front ++ '/' :: action.toList ++ List.replicate n '/' ++ tail

section Stripping

variable {path base : String} {before tail : List Char}

theorem mem_actionEnds_iff : tail ∈ actionEnds ↔ ∃ action ∈ actionSegments,
    tail = '/' :: action.toList ∨ tail = '/' :: action.toList ++ ['/'] := by
  simp only [actionEnds, List.mem_flatMap, List.mem_cons, List.not_mem_nil, or_false]

theorem slash_free_of_mem_actionSegments {action : String} (h : action ∈ actionSegments) :
    '/' ∉ action.toList ∧ ('/' :: action.toList).getLast? ≠ some '/' :=
  (by decide : ∀ action ∈ actionSegments,
    '/' ∉ action.toList ∧ ('/' :: action.toList).getLast? ≠ some '/') action h

theorem dropActionSegment_append (htail : tail ∈ actionEnds)
    (hpath : path.toList = before ++ tail) :
    dropActionSegment path = String.ofList before := by
  obtain ⟨action, haction, hends⟩ := mem_actionEnds_iff.1 htail
  obtain ⟨hplain, hlast⟩ := slash_free_of_mem_actionSegments haction
  have hcut {s : String} (hs : s.toList = before ++ '/' :: action.toList) :
      Text.cutLast? '/' s = some (String.ofList before, action) := by
    rw [Text.cutLast?_append hplain hs, String.ofList_toList]
  have hknown : actionSegments.contains action = true := List.contains_iff_mem.2 haction
  -- the one slash that may stand behind the action is looked past
  have htrimmed : ((Text.dropTail? "/" path).getD path).toList =
      before ++ '/' :: action.toList := by
    rcases hends with rfl | rfl
    · have hnone : Text.dropTail? "/" path = none := by
        refine Option.eq_none_iff_forall_ne_some.2 fun rest hrest => hlast ?_
        have hslash := congrArg List.getLast? (congrArg String.toList
          (Text.dropTail?_eq_some_iff.1 hrest))
        rw [hpath] at hslash
        simpa using hslash
      rw [hnone, Option.getD_none, hpath]
    · have hsome : Text.dropTail? "/" path =
          some (String.ofList (before ++ '/' :: action.toList)) := by
        rw [Text.dropTail?_eq_some_iff, ← String.toList_inj, hpath]
        simp
      rw [hsome, Option.getD_some, String.toList_ofList]
  rw [dropActionSegment, hcut htrimmed]
  exact if_pos hknown

/-- A path loses its trailing action or nothing. -/
theorem dropActionSegment_cases (path : String) :
    dropActionSegment path = path ∨
      ∃ tail ∈ actionEnds, path.toList = (dropActionSegment path).toList ++ tail := by
  cases hcut : Text.cutLast? '/' ((Text.dropTail? "/" path).getD path) with
  | none => exact Or.inl (by rw [dropActionSegment, hcut])
  | some parts =>
      obtain ⟨before, last⟩ := parts
      have hdrop : dropActionSegment path =
          if actionSegments.contains last then before else path := by
        rw [dropActionSegment, hcut]
      by_cases hknown : actionSegments.contains last = true
      · rw [if_pos hknown] at hdrop
        have hlast := List.contains_iff_mem.1 hknown
        have htrimmed := Text.append_of_cutLast? hcut
        right
        rw [hdrop]
        cases hslash : Text.dropTail? "/" path with
        | none =>
            rw [hslash, Option.getD_none] at htrimmed
            exact ⟨_, mem_actionEnds_iff.2 ⟨last, hlast, Or.inl rfl⟩, htrimmed⟩
        | some rest =>
            rw [hslash, Option.getD_some] at htrimmed
            refine ⟨_, mem_actionEnds_iff.2 ⟨last, hlast, Or.inr rfl⟩, ?_⟩
            rw [Text.dropTail?_eq_some_iff.1 hslash, String.toList_append, htrimmed,
              List.append_assoc]
            rfl
      · exact Or.inl (hdrop.trans (if_neg hknown))

theorem dropActionSegment_eq_self_of_slashes {n : Nat}
    (hpath : path.toList = before ++ List.replicate (n + 2) '/') :
    dropActionSegment path = path := by
  refine (dropActionSegment_cases path).resolve_right ?_
  rintro ⟨tail, htail, hcut⟩
  obtain ⟨hlong, hplain⟩ : 2 ≤ tail.length ∧ ¬ ['/', '/'] <:+ tail :=
    (by decide : ∀ tail ∈ actionEnds, 2 ≤ tail.length ∧ ¬ ['/', '/'] <:+ tail) tail htail
  have hslashes : ['/', '/'] <:+ path.toList := by
    rw [hpath, ← List.replicate_append_replicate, ← List.append_assoc]
    exact List.suffix_append _ _
  exact hplain (List.suffix_of_suffix_length_le hslashes (hcut ▸ List.suffix_append _ _) hlong)

/-- An action that stays has at least two slashes behind it. -/
theorem two_le_of_dropActionSegment_eq_self {action : String} (haction : action ∈ actionSegments)
    {n : Nat} (hpath : path.toList = before ++ '/' :: action.toList ++ List.replicate n '/')
    (hself : dropActionSegment path = path) : 2 ≤ n := by
  by_contra hshort
  have htail : '/' :: action.toList ++ List.replicate n '/' ∈ actionEnds := by
    rw [mem_actionEnds_iff]
    obtain rfl | rfl : n = 0 ∨ n = 1 := by omega
    · exact ⟨action, haction, Or.inl (List.append_nil _)⟩
    · exact ⟨action, haction, Or.inr rfl⟩
  have hdrop := dropActionSegment_append htail (hpath.trans (List.append_assoc ..))
  have hlength := congrArg List.length (congrArg String.toList (hself.symm.trans hdrop))
  rw [hpath, String.toList_ofList] at hlength
  simp at hlength

theorem leavesAction_iff : LeavesAction path ↔ ∃ action ∈ actionSegments,
    '/' :: action.toList <:+ (Text.stripEnd '/' (dropActionSegment path)).toList := by
  constructor
  · rintro ⟨front, action, haction, n, hpath⟩
    have hlast : (front ++ '/' :: action.toList).getLast? ≠ some '/' := by
      simpa using (slash_free_of_mem_actionSegments haction).2
    have hstrip : Text.stripEnd '/' (dropActionSegment path) =
        String.ofList (front ++ '/' :: action.toList) := by
      rw [Text.stripEnd_eq_iff, String.toList_ofList]
      rcases hpath with hslashes | ⟨tail, htail, hsecond⟩
      · exact ⟨hlast, n + 2, by rw [dropActionSegment_eq_self_of_slashes hslashes, hslashes]⟩
      · exact ⟨hlast, n, by rw [dropActionSegment_append htail hsecond, String.toList_ofList]⟩
    refine ⟨action, haction, ?_⟩
    rw [hstrip, String.toList_ofList]
    exact List.suffix_append _ _
  · rintro ⟨action, haction, front, hfront⟩
    obtain ⟨-, n, hdropped⟩ := Text.stripEnd_eq_iff (s := dropActionSegment path).1 rfl
    rw [← hfront] at hdropped
    rcases dropActionSegment_cases path with hself | ⟨tail, htail, hcut⟩
    · -- nothing was dropped but slashes, which were too many for the action to be seen
      rw [hself] at hdropped
      obtain ⟨m, rfl⟩ := Nat.exists_eq_add_of_le'
        (two_le_of_dropActionSegment_eq_self haction hdropped hself)
      exact ⟨front, action, haction, m, Or.inl hdropped⟩
    · exact ⟨front, action, haction, n, Or.inr ⟨tail, htail, by rw [hcut, hdropped]⟩⟩

theorem siteRelative_iff_of_isPrefix {place : String} (hbase : base ≠ "")
    (hlast : base.toList.getLast? ≠ some '/') (hfront : base.toList <+: place.toList) :
    SiteRelative base ↔ SiteRelative place := by
  obtain ⟨rest, hrest⟩ := hfront
  unfold SiteRelative
  rcases hcs : base.toList with _ | ⟨c, _ | ⟨d, cs⟩⟩
  · exact absurd (String.toList_eq_nil_iff.1 hcs) hbase
  · -- a path of one character that does not end with a slash does not start with one
    have hc : c ≠ '/' := by simpa [hcs] using hlast
    simp [← hrest, hcs, hc]
  · simp [← hrest, hcs]

theorem of_stripActionSegment? (h : stripActionSegment? (some path) = some base) :
    base ≠ "" ∧ Text.stripEnd '/' (dropActionSegment (Text.strip path)) = base := by
  simp only [stripActionSegment?, Option.ite_none_left_eq_some, Option.some_inj] at h
  obtain ⟨-, hrest, heq⟩ := h
  rw [heq] at hrest
  exact ⟨hrest, heq⟩

/-- What is left of a path is a place of the site exactly if the path starts as one and leaves no
action. -/
theorem sitePath_iff_of_strip (h : stripActionSegment? (some path) = some base) :
    SitePath base ↔ SiteRelative (Text.strip path) ∧ ¬ LeavesAction (Text.strip path) := by
  obtain ⟨hbase, heq⟩ := of_stripActionSegment? h
  obtain ⟨hlast, n, hdropped⟩ := Text.stripEnd_eq_iff.1 heq
  have hfront : base.toList <+: (Text.strip path).toList := by
    refine List.IsPrefix.trans ⟨_, hdropped.symm⟩ ?_
    rcases dropActionSegment_cases (Text.strip path) with hself | ⟨tail, -, hcut⟩
    · exact ⟨[], by rw [List.append_nil, hself]⟩
    · exact ⟨tail, hcut.symm⟩
  rw [← siteRelative_iff_of_isPrefix hbase hlast hfront, leavesAction_iff, heq]
  constructor
  · intro hsite
    exact ⟨hsite.start, fun ⟨action, haction, hends⟩ => hsite.place action haction hends⟩
  · rintro ⟨hstart, hplace⟩
    exact ⟨hstart, hlast, fun action haction hends => hplace ⟨action, haction, hends⟩⟩

/-- A path of the site starts as a place of it, whatever slashes it is given with. -/
theorem siteRelative_strip_slash (path : String) :
    SiteRelative (Text.strip ("/" ++ Text.stripStart '/' path)) := by
  have hslash : ("/" ++ Text.stripStart '/' path).toList =
      '/' :: path.toList.dropWhile (· == '/') := by
    simp [Text.stripStart]
  rw [SiteRelative, Text.strip, String.toList_ofList, hslash, Text.trimBy_cons_of_not (by decide)]
  refine ⟨rfl, fun hsecond => ?_⟩
  -- a second slash would be the first character of what has no slash in front
  rw [List.getElem?_cons_succ, ← List.head?_eq_getElem?] at hsecond
  have hfirst := List.head?_dropWhile_not (· == '/') path.toList
  obtain ⟨back, hback⟩ :=
    Text.isPrefix_dropEndWhile Text.isBlank (path.toList.dropWhile (· == '/'))
  rw [← hback, List.head?_append, hsecond] at hfirst
  exact Bool.noConfusion hfirst

end Stripping

section Naming

/-- The marks between the parts of a name, which become the slashes of a path. -/
def nameMarks : List Char := ['.', '/']

/-- Whether a name starts and ends with a part, and the last part is no action. -/
structure PlaceName (name : String) : Prop where
  start : ∃ c ∉ nameMarks, name.toList.head? = some c
  finish : ∃ c ∉ nameMarks, name.toList.getLast? = some c
  place : ∀ action ∈ actionSegments,
    name ≠ action ∧ ∀ mark ∈ nameMarks, ¬ mark :: action.toList <:+ name.toList

/-- A character of a name as it stands in a path. -/
def inPath (c : Char) : Char := if c = '.' then '/' else c

theorem inPath_eq_slash_iff {c : Char} : inPath c = '/' ↔ c ∈ nameMarks := by
  simp [inPath, nameMarks, ← or_iff_not_imp_left]

theorem inPath_of_not_mem {c : Char} (h : c ∉ nameMarks) : inPath c = c :=
  if_neg fun hc => h (by simp [hc, nameMarks])

theorem toList_namedPath (name : String) :
    ("/" ++ Text.replaceChar '.' "/" name).toList = '/' :: name.toList.map inPath := by
  have hchar : (fun c => if c = '.' then "/".toList else [c]) = fun c => [inPath c] := by
    funext c
    by_cases hc : c = '.' <;> simp [inPath, hc]
  rw [Text.replaceChar, hchar, ← List.map_eq_flatMap]
  simp

/-- A text without marks is in a path what it is in a name. -/
theorem map_inPath_eq_iff {part : List Char} (h : ∀ c ∈ part, c ∉ nameMarks) (cs : List Char) :
    cs.map inPath = part ↔ cs = part := by
  induction cs generalizing part with
  | nil => rfl
  | cons c cs ih =>
      cases part with
      | nil => simp
      | cons d part =>
          obtain ⟨hd, hpart⟩ := List.forall_mem_cons.1 h
          have hc : inPath c = d ↔ c = d := by
            constructor
            · rintro rfl
              refine (inPath_of_not_mem fun hc => hd ?_).symm
              simp [inPath_eq_slash_iff.2 hc, nameMarks]
            · rintro rfl
              exact inPath_of_not_mem hd
          rw [List.map_cons, List.cons.injEq, List.cons.injEq, hc, ih hpart]

/-- What the path of a name ends with, the name ends with behind a mark or as a whole. -/
theorem suffix_slash_map_inPath_iff {part : List Char} (h : ∀ c ∈ part, c ∉ nameMarks)
    (cs : List Char) : '/' :: part <:+ '/' :: cs.map inPath ↔
      cs = part ∨ ∃ mark ∈ nameMarks, mark :: part <:+ cs := by
  rw [List.suffix_cons_iff, List.cons.injEq, eq_comm (a := part), map_inPath_eq_iff h,
    List.suffix_map_iff]
  refine or_congr (and_iff_right rfl) ⟨?_, ?_⟩
  · rintro ⟨ending, hending, heq⟩
    obtain ⟨mark, rest, rfl, hmark, hrest⟩ := List.map_eq_cons_iff.1 heq.symm
    rw [map_inPath_eq_iff h] at hrest
    exact ⟨mark, inPath_eq_slash_iff.1 hmark, hrest ▸ hending⟩
  · rintro ⟨mark, hmark, hending⟩
    refine ⟨_, hending, ?_⟩
    rw [List.map_cons, inPath_eq_slash_iff.2 hmark, (map_inPath_eq_iff h part).2 rfl]

/-- The path of a name is a place of the site exactly if the name is that of a place. -/
theorem sitePath_iff_placeName (name : String) :
    SitePath ("/" ++ Text.replaceChar '.' "/" name) ↔ PlaceName name := by
  have hplace : (∀ action ∈ actionSegments,
        ¬ '/' :: action.toList <:+ ("/" ++ Text.replaceChar '.' "/" name).toList) ↔
      ∀ action ∈ actionSegments,
        name ≠ action ∧ ∀ mark ∈ nameMarks, ¬ mark :: action.toList <:+ name.toList := by
    refine forall₂_congr fun action haction => ?_
    have hmarks : ∀ mark ∈ nameMarks, mark ∉ action.toList := by
      simpa [nameMarks] using (by decide : ∀ action ∈ actionSegments,
        '.' ∉ action.toList ∧ '/' ∉ action.toList) action haction
    have hplain : ∀ c ∈ action.toList, c ∉ nameMarks := fun c hc hmark => hmarks c hmark hc
    rw [toList_namedPath, suffix_slash_map_inPath_iff hplain, String.toList_inj]
    push Not
    rfl
  have hends : SiteRelative ("/" ++ Text.replaceChar '.' "/" name) ∧
        ("/" ++ Text.replaceChar '.' "/" name).toList.getLast? ≠ some '/' ↔
      (∃ c ∉ nameMarks, name.toList.head? = some c) ∧
        ∃ c ∉ nameMarks, name.toList.getLast? = some c := by
    rw [SiteRelative, toList_namedPath, List.getLast?_cons, List.getLast?_map]
    cases name.toList with
    | nil => simp
    | cons c cs => simp [List.getLast?_cons, inPath_eq_slash_iff]
  constructor
  · intro hsite
    obtain ⟨hstart, hfinish⟩ := hends.1 ⟨hsite.start, hsite.finish⟩
    exact ⟨hstart, hfinish, hplace.1 hsite.place⟩
  · intro hname
    obtain ⟨hstart, hfinish⟩ := hends.2 ⟨hname.start, hname.finish⟩
    exact ⟨hstart, hfinish, hplace.2 hname.place⟩

end Naming

/-- What is known of a request that may tell its base path: the page it came from, a path of the
site, or the name of its route. -/
inductive PathSource where
  | page (link : String)
  | site (path : String)
  | named (name : String)

namespace PathSource

/-- The base path that a source tells. -/
def base? : PathSource → Option String
  | .page link => (Web.pathOf? link).bind fun path => stripActionSegment? (some path)
  | .site path => sitePath? (some path)
  | .named name => namedPath? (some name)

/-- Whether a source tells a place of the site, if it tells anything. -/
def TellsPlace : PathSource → Prop
  | .page link => ∀ path, Web.pathOf? link = some path →
      SiteRelative (Text.strip path) ∧ ¬ LeavesAction (Text.strip path)
  | .site path => ¬ LeavesAction (Text.strip ("/" ++ Text.stripStart '/' path))
  | .named name => PlaceName (routeBase name)

theorem base_ne_empty {source : PathSource} {base : String} (h : source.base? = some base) :
    base ≠ "" := by
  cases source with
  | page link =>
      obtain ⟨path, -, hstrip⟩ := Option.bind_eq_some_iff.1 h
      exact (of_stripActionSegment? hstrip).1
  | site path =>
      simp only [base?, sitePath?, Option.ite_none_left_eq_some] at h
      exact (of_stripActionSegment? h.2).1
  | named name =>
      simp only [base?, namedPath?, Option.ite_none_right_eq_some, Option.some_inj] at h
      rw [← h.2, ne_eq, ← String.toList_eq_nil_iff, toList_namedPath]
      exact List.cons_ne_nil _ _

/-- What a source tells is a place of the site exactly if the source tells one. -/
theorem sitePath_iff {source : PathSource} {base : String} (h : source.base? = some base) :
    SitePath base ↔ source.TellsPlace := by
  cases source with
  | page link =>
      obtain ⟨path, hpath, hstrip⟩ := Option.bind_eq_some_iff.1 h
      rw [sitePath_iff_of_strip hstrip, TellsPlace]
      exact ⟨fun hsite other hother => Option.some_inj.1 (hpath.symm.trans hother) ▸ hsite,
        fun htells => htells path hpath⟩
  | site path =>
      simp only [base?, sitePath?, Option.ite_none_left_eq_some] at h
      rw [sitePath_iff_of_strip h.2, TellsPlace]
      exact and_iff_right (siteRelative_strip_slash path)
  | named name =>
      simp only [base?, namedPath?, Option.ite_none_right_eq_some, Option.some_inj] at h
      rw [← h.2, TellsPlace, sitePath_iff_placeName]

end PathSource

/-- What is known of a request, in the order in which it is asked for the base path. -/
def sources (route : RouteInfo) : List PathSource :=
  route.referrer.toList.map .page ++ (route.routeUri.toList.map .site ++
    (route.routeName.toList.map .named ++ route.requestPath.toList.map .site))

/-- The first source that tells a base path. -/
def source? (route : RouteInfo) : Option PathSource := (sources route).find? (·.base?.isSome)

section Sources

variable {route : RouteInfo}

theorem referrerPath?_eq (h : ∀ link, route.referrer = some link → (Web.pathOf? link).isSome) :
    referrerPath? route.referrer =
      .ok ((route.referrer.toList.map PathSource.page).findSome? (·.base?)) := by
  cases hreferrer : route.referrer with
  | none => rfl
  | some link =>
      obtain ⟨path, hpath⟩ := Option.isSome_iff_exists.1 (h link hreferrer)
      have hsource : ([PathSource.page link].findSome? (·.base?)) =
          stripActionSegment? (some path) := by
        rw [List.findSome?_singleton, PathSource.base?, hpath, Option.bind_some]
      rw [Option.toList_some, List.map_singleton, hsource]
      by_cases hlink : link = ""
      · obtain rfl : path = "" := by
          rw [hlink, (by decide : Web.pathOf? "" = some "")] at hpath
          exact (Option.some_inj.1 hpath).symm
        rw [referrerPath?, if_pos hlink]
        rfl
      · rw [referrerPath?, if_neg hlink, hpath]

theorem findSome?_sources (route : RouteInfo) : (sources route).findSome? (·.base?) =
    ((route.referrer.toList.map PathSource.page).findSome? (·.base?)).or
      ((sitePath? route.routeUri).or
        ((namedPath? route.routeName).or (sitePath? route.requestPath))) := by
  have hsite (path : Option String) :
      (path.toList.map PathSource.site).findSome? (·.base?) = sitePath? path := by
    cases path with
    | none => rfl
    | some path => exact List.findSome?_singleton ..
  have hnamed (name : Option String) :
      (name.toList.map PathSource.named).findSome? (·.base?) = namedPath? name := by
    cases name with
    | none => rfl
    | some name => exact List.findSome?_singleton ..
  rw [sources, List.findSome?_append, List.findSome?_append, List.findSome?_append, hsite, hnamed,
    hsite]

theorem bind_source?_eq (route : RouteInfo) :
    (source? route).bind (·.base?) = (sources route).findSome? (·.base?) := by
  unfold source?
  induction sources route with
  | nil => rfl
  | cons source rest ih =>
      cases h : source.base? with
      | none =>
          rw [List.find?_cons_of_neg (by simp [h]), List.findSome?_cons_of_isNone (by simp [h]), ih]
      | some base =>
          rw [List.find?_cons_of_pos (by simp [h]), List.findSome?_cons_of_isSome (by simp [h])]
          rfl

/-- The base path is what the first source tells. -/
theorem basePath_eq (h : ∀ link, route.referrer = some link → (Web.pathOf? link).isSome) :
    basePath route = .ok (((source? route).bind (·.base?)).getD "") := by
  rw [basePath, referrerPath?_eq h, bind_source?_eq, findSome?_sources, ← Option.or_assoc]
  rfl

/-- A base path is empty or a place of the site exactly if the source that tells it, tells a
place. -/
theorem base_iff_tellsPlace (route : RouteInfo) :
    let base := ((source? route).bind (·.base?)).getD ""
    base = "" ∨ SitePath base ↔ ∀ source, source? route = some source → source.TellsPlace := by
  intro base
  cases hsource : source? route with
  | none => exact iff_of_true (Or.inl (by simp [base, hsource])) nofun
  | some source =>
      obtain ⟨told, htold⟩ := Option.isSome_iff_exists.1
        (List.find?_some (p := fun s : PathSource => s.base?.isSome) hsource)
      have hbase : base = told := by simp [base, hsource, htold]
      rw [hbase, or_iff_right (PathSource.base_ne_empty htold), PathSource.sitePath_iff htold]
      exact ⟨fun htells other hother => Option.some_inj.1 hother ▸ htells,
        fun htells => htells source rfl⟩

end Sources

section Links

theorem escapeChar_head (c : Char) :
    ∃ d rest, Text.escapeChar c = d :: rest ∧ (d = '/' ↔ c = '/') := by
  unfold Text.escapeChar
  repeat' split
  all_goals simp_all

/-- Whether an escaped text stays on the site is told by the first two characters of the text. -/
theorem siteRelative_escape_append {s : String} {c d : Char} {rest : List Char}
    (hs : s.toList = c :: d :: rest) (t : String) :
    SiteRelative (Text.escape s ++ t) ↔ c = '/' ∧ d ≠ '/' := by
  have htext : (Text.escape s ++ t).toList = Text.escapeChar c ++
      (Text.escapeChar d ++ (rest.flatMap Text.escapeChar ++ t.toList)) := by
    simp [Text.escape, hs]
  rw [SiteRelative, htext]
  by_cases hc : c = '/'
  · have hslash : Text.escapeChar '/' = ['/'] := rfl
    obtain ⟨d', back, hd, hsecond⟩ := escapeChar_head d
    simp [hc, hslash, hd, hsecond]
  · obtain ⟨c', front, hfront, hfirst⟩ := escapeChar_head c
    simp [hfront, hfirst, hc]

/-- A row leads to places below the one that its base path and its own text name. -/
theorem exists_append_of_mem_rowTargets {buttons : List ActionButton} {start link : String}
    {restore : Bool} (h : link ∈ rowTargets buttons start restore) :
    ∃ t, link = Text.escape (start ++ "/") ++ t := by
  unfold rowTargets at h
  cases restore with
  | true =>
      rw [if_pos rfl] at h
      obtain ⟨b, -, rfl⟩ := List.mem_map.1 h
      refine ⟨"restore_deleted", ?_⟩
      rw [escape_append, String.append_assoc]
      rfl
  | false =>
      rw [if_neg Bool.false_ne_true] at h
      obtain ⟨b, -, rfl⟩ := List.mem_map.1 h
      exact ⟨Text.escape b.name, escape_append ..⟩

/-- The links of a row stay on the site if its base path is a place of it, and without a base path
if the text of the row starts with something else than a slash. -/
theorem siteRelative_of_mem_links {base link : String} (hbase : base = "" ∨ SitePath base)
    {buttons : List ActionButton} {row : List (String × Value)} {targetField : String}
    {softDeleteField : Option String} {id cell : String} (hid : rowId row targetField = .ok id)
    (hcell : render buttons row base targetField softDeleteField = .ok cell)
    (hlink : link ∈ links cell) :
    SiteRelative link ↔ base ≠ "" ∨ id.toList.head?.any (· != '/') := by
  obtain ⟨id', hid', rfl⟩ := render_eq_ok_iff.1 hcell
  obtain rfl : id = id' := Except.ok.inj (hid.symm.trans hid')
  rw [(leads_cellMarkup ..).links_eq] at hlink
  obtain ⟨t, rfl⟩ := exists_append_of_mem_rowTargets hlink
  unfold rowPath
  rcases hbase with rfl | hsite
  · have hstart : (Text.stripEnd '/' "" ++ "/" ++ id ++ "/").toList =
        '/' :: (id.toList ++ ['/']) := by
      simp [Text.stripEnd, Text.dropEndWhile]
    cases hcs : id.toList with
    | nil =>
        rw [hcs] at hstart
        simp [siteRelative_escape_append hstart]
    | cons c cs =>
        rw [hcs] at hstart
        simp [siteRelative_escape_append hstart]
  · have hstrip : Text.stripEnd '/' base = base :=
      Text.stripEnd_eq_iff.2 ⟨hsite.finish, 0, (List.append_nil _).symm⟩
    obtain ⟨c, rest, hc, hcs⟩ : ∃ c rest, c ≠ '/' ∧ base.toList = '/' :: c :: rest := by
      obtain ⟨hfirst, hsecond⟩ := hsite.start
      have hlast := hsite.finish
      rcases hcs : base.toList with _ | ⟨c, _ | ⟨d, rest⟩⟩
      · simp [hcs] at hfirst
      · simp_all
      · exact ⟨d, rest, by simpa [hcs] using hsecond, by simpa [hcs] using hfirst⟩
    have hstart : (Text.stripEnd '/' base ++ "/" ++ id ++ "/").toList =
        '/' :: c :: (rest ++ '/' :: (id.toList ++ ['/'])) := by
      simp [hstrip, hcs]
    have hbase : base ≠ "" := by
      rintro rfl
      exact List.cons_ne_nil _ _ hcs.symm
    simp [siteRelative_escape_append hstart, hc, hbase]

end Links

/-- A request whose page is well addressed has a base path.  It is empty or a place of the site
exactly if the source that tells it tells a place.  The links of a row then stay on the site, and
without a base path they do if the text of the row starts with something else than a slash. -/
theorem basePath_place_iff (route : RouteInfo)
    (h : ∀ link, route.referrer = some link → (Web.pathOf? link).isSome) :
    ∃ base, basePath route = .ok base ∧
      (base = "" ∨ SitePath base ↔ ∀ source, source? route = some source → source.TellsPlace) ∧
      (base = "" ∨ SitePath base → ∀ buttons row targetField softDeleteField id cell,
        rowId row targetField = .ok id →
          render buttons row base targetField softDeleteField = .ok cell →
            ∀ link ∈ links cell,
              SiteRelative link ↔ base ≠ "" ∨ id.toList.head?.any (· != '/')) :=
  ⟨_, basePath_eq h, base_iff_tellsPlace route,
    fun hbase _ _ _ _ _ _ hid hcell _ => siteRelative_of_mem_links hbase hid hcell⟩

/-- A request from the list of orders. -/
def fromOrders : RouteInfo where
  referrer := some "http://shop.test/orders/index?page=2"
  routeUri := none
  routeName := none
  requestPath := none

theorem basePath_place_iff_orders :
    (∀ link, fromOrders.referrer = some link → (Web.pathOf? link).isSome) ∧
      basePath fromOrders = .ok "/orders" ∧
      (PathSource.page "http://shop.test/orders/index?page=2").TellsPlace ∧
      ∀ buttons row cell, render buttons row "/orders" "id" none = .ok cell →
        ∀ link ∈ links cell, SiteRelative link := by
  have haccepted : ∀ link, fromOrders.referrer = some link → (Web.pathOf? link).isSome := by
    rintro link ⟨⟩
    decide
  have hpath : basePath fromOrders = .ok "/orders" := rfl
  obtain ⟨base, hbase, htells, hlinks⟩ := basePath_place_iff fromOrders haccepted
  obtain rfl : "/orders" = base := Except.ok.inj (hpath.symm.trans hbase)
  have hsite : SitePath "/orders" := by decide
  refine ⟨haccepted, hpath, htells.1 (Or.inr hsite) _ rfl,
    fun buttons row cell hcell link hlink => ?_⟩
  obtain ⟨id, hid, -⟩ := render_eq_ok_iff.1 hcell
  exact (hlinks (Or.inr hsite) buttons row "id" none id cell hid hcell link hlink).2
    (Or.inl (by decide))

/-- A request from a page whose path starts with two slashes. -/
def fromForeign : RouteInfo where
  referrer := some "http://shop.test//evil.test/orders"
  routeUri := none
  routeName := none
  requestPath := none

theorem not_basePath_place_foreign :
    basePath fromForeign = .ok "//evil.test/orders" ∧
      ¬ ("//evil.test/orders" = "" ∨ SitePath "//evil.test/orders") :=
  ⟨rfl, by decide⟩

end AdminGrid.Action
