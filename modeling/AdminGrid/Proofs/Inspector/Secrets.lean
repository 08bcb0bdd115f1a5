import AdminGrid.Parity.Run
import AdminGrid.Proofs.Entries
import AdminGrid.Proofs.Outcome

/-!
# Secrets in artifacts

A secret is what stands under a sensitive key.  Redaction is a function of everything else: values
that differ in their secrets alone are redacted alike, and a redacted value has no secrets left that
a second redaction could change.  Outside of secrets nothing is lost: at every place that is not
below a sensitive key, a map keeps its keys, a list its length and a plain value itself.

So the request and the reports of an artifact say nothing about the secrets of a run, whether the
request was redacted once or twice on its way.
-/

namespace AdminGrid.Inspector

mutual

/-- Two values that are equal but for what stands under sensitive keys. -/
inductive SameButSecrets : Value → Value → Prop
  | same (v : Value) : SameButSecrets v v
  | list {xs ys : List Value} (h : ItemsSameButSecrets xs ys) :
      SameButSecrets (.list xs) (.list ys)
  | tuple {xs ys : List Value} (h : ItemsSameButSecrets xs ys) :
      SameButSecrets (.tuple xs) (.tuple ys)
  | map {es fs : List (String × Value)} (h : EntriesSameButSecrets es fs) :
      SameButSecrets (.map es) (.map fs)

/-- Two lists whose items are equal but for secrets. -/
inductive ItemsSameButSecrets : List Value → List Value → Prop
  | nil : ItemsSameButSecrets [] []
  | cons {x y : Value} {xs ys : List Value} (h : SameButSecrets x y)
      (hrest : ItemsSameButSecrets xs ys) : ItemsSameButSecrets (x :: xs) (y :: ys)

/-- Two collections of entries with the same keys that are equal but for secrets. -/
inductive EntriesSameButSecrets : List (String × Value) → List (String × Value) → Prop
  | nil : EntriesSameButSecrets [] []
  | secret {key : String} (v w : Value) {es fs : List (String × Value)}
      (h : isSensitive key = true) (hrest : EntriesSameButSecrets es fs) :
      EntriesSameButSecrets ((key, v) :: es) ((key, w) :: fs)
  | entry (key : String) {v w : Value} {es fs : List (String × Value)} (h : SameButSecrets v w)
      (hrest : EntriesSameButSecrets es fs) :
      EntriesSameButSecrets ((key, v) :: es) ((key, w) :: fs)

end

section Redacted

mutual

theorem SameButSecrets.redact_eq {v w : Value} (h : SameButSecrets v w) : redact v = redact w :=
  match h with
  | .same _ => rfl
  | .list h => by simp only [redact, h.redactItems_eq]
  | .tuple h => by simp only [redact, h.redactItems_eq]
  | .map h => by simp only [redact, h.redactEntries_eq]

theorem ItemsSameButSecrets.redactItems_eq {xs ys : List Value} (h : ItemsSameButSecrets xs ys) :
    redactItems xs = redactItems ys :=
  match h with
  | .nil => rfl
  | .cons h hrest => by rw [redactItems, redactItems, h.redact_eq, hrest.redactItems_eq]

theorem EntriesSameButSecrets.redactEntries_eq {es fs : List (String × Value)}
    (h : EntriesSameButSecrets es fs) : redactEntries es = redactEntries fs :=
  match h with
  | .nil => rfl
  | .secret v w h hrest => by
      rw [redactEntries, redactEntries, if_pos h, if_pos h, hrest.redactEntries_eq]
  | .entry key h hrest => by
      rw [redactEntries, redactEntries, h.redact_eq, hrest.redactEntries_eq]

end

mutual

theorem redact_redact (v : Value) : redact (redact v) = redact v :=
  match v with
  | .map entries => by simp only [redact, redactEntries_redactEntries entries]
  | .list items | .tuple items => by simp only [redact, redactItems_redactItems items]
  | .null | .bool _ | .int _ | .float _ | .text _ | .bytes _ | .decimal _ | .date _ | .moment _
  | .clock _ => rfl

theorem redactItems_redactItems (items : List Value) :
    redactItems (redactItems items) = redactItems items :=
  match items with
  | [] => rfl
  | v :: rest => by
      rw [redactItems, redactItems, redact_redact v, redactItems_redactItems rest]

theorem redactEntries_redactEntries (entries : List (String × Value)) :
    redactEntries (redactEntries entries) = redactEntries entries :=
  match entries with
  | [] => rfl
  | (key, v) :: rest => by
      rw [redactEntries, redactEntries, redactEntries_redactEntries rest]
      -- a secret is a plain text by now, under a key that is still sensitive
      cases isSensitive key with
      | false => simp [redact_redact v]
      | true => rfl

end

theorem redactItems_eq_map (items : List Value) : redactItems items = items.map redact := by
  induction items with
  | nil => rfl
  | cons v rest ih => rw [redactItems, ih, List.map_cons]

theorem redactEntries_eq_map (entries : List (String × Value)) :
    redactEntries entries =
      entries.map fun e => (e.1, if isSensitive e.1 then redacted else redact e.2) := by
  induction entries with
  | nil => rfl
  | cons e rest ih =>
      obtain ⟨key, v⟩ := e
      rw [redactEntries, ih, List.map_cons]

end Redacted

section Places

/-- A step into a list or a map. -/
inductive Step where
  | item (i : Nat)
  | entry (key : String)

/-- What stands at a place of a value. -/
def valueAt : List Step → Value → Option Value
  | [], v => some v
  | .item i :: path, v => (v.items?.bind (·[i]?)).bind (valueAt path)
  | .entry key :: path, v => (v.get? key).bind (valueAt path)

/-- Whether a place is not below a sensitive key. -/
def IsOpen (path : List Step) : Prop := ∀ key, .entry key ∈ path → isSensitive key = false

/-- Whether a value has nothing below it. -/
def IsPlain (v : Value) : Prop := v.items? = none ∧ v.entries? = none

theorem items?_redact (v : Value) : (redact v).items? = v.items?.map (List.map redact) := by
  cases v <;> simp [redact, Value.items?, redactItems_eq_map]

theorem get?_redact {key : String} (h : isSensitive key = false) (v : Value) :
    (redact v).get? key = (v.get? key).map redact := by
  cases v with
  | map entries =>
      simp only [redact, Value.get?]
      -- the first entry of a key stays the first, as no key is changed
      induction entries with
      | nil => rfl
      | cons e rest ih =>
          obtain ⟨k, v⟩ := e
          rw [redactEntries, Entries.get?_cons, Entries.get?_cons, ih]
          by_cases hk : k = key
          · simp [hk, h]
          · simp [hk]
  | _ => simp [redact, Value.get?]

/-- At an open place stands what stood there, redacted. -/
theorem valueAt_redact {path : List Step} (h : IsOpen path) (v : Value) :
    valueAt path (redact v) = (valueAt path v).map redact := by
  induction path generalizing v with
  | nil => rfl
  | cons step path ih =>
      have hpath : IsOpen path := fun key hkey => h key (List.mem_cons_of_mem _ hkey)
      cases step with
      | item i =>
          rw [valueAt, valueAt, items?_redact]
          cases v.items? with
          | none => rfl
          | some items =>
              cases hi : items[i]? with
              | none => simp [hi]
              | some item => simpa [hi] using ih hpath item
      | entry key =>
          have hkey : isSensitive key = false := h key List.mem_cons_self
          rw [valueAt, valueAt, get?_redact hkey]
          cases v.get? key with
          | none => rfl
          | some entry => exact ih hpath entry

theorem keys_redactEntries (entries : List (String × Value)) :
    (redactEntries entries).map (·.1) = entries.map (·.1) := by
  simp [redactEntries_eq_map]

theorem redact_of_isPlain {v : Value} (h : IsPlain v) : redact v = v := by
  cases v with
  | list _ | tuple _ => cases h.1
  | map _ => cases h.2
  | _ => rfl

end Places

section Artifacts

variable {c : Config} {entries other : List (String × Value)}

theorem kept_eq (hc : c.excludeSensitive = true) (h : EntriesSameButSecrets entries other) :
    c.kept entries = c.kept other := by
  simp only [Config.kept, hc, if_true, redact, h.redactEntries_eq]

theorem keptRequest_eq (hc : c.excludeSensitive = true)
    (h : EntriesSameButSecrets entries other) : c.keptRequest entries = c.keptRequest other := by
  rw [Config.keptRequest, Config.keptRequest, kept_eq hc h]

theorem EntriesSameButSecrets.isEmpty_eq (h : EntriesSameButSecrets entries other) :
    entries.isEmpty = other.isEmpty := by
  cases h <;> rfl

/-- What an artifact tells of the request and of the stages. -/
theorem parts_of_capture {o : Occasion} {d : ParityDiagnostic} {extra artifact : Entries Value}
    (h : capture c o d extra = .ok artifact) :
    artifact.get? "request" = some (c.keptRequest d.requestContext) ∧
      artifact.get? "pipeline" = if extra.isEmpty then none else some (c.kept extra) := by
  obtain ⟨severity, -, hartifact⟩ := bind_eq_ok.1 h
  obtain rfl := pure_eq_ok.1 hartifact
  constructor
  · simp [Entries.get?_cons]
  · cases extra.isEmpty <;> cases c.includeTrace <;> simp [Entries.get?_cons]

theorem capture_eq (hc : c.excludeSensitive = true) {o : Occasion} {d : ParityDiagnostic}
    {request request' extra extra' : Entries Value}
    (hrequest : EntriesSameButSecrets request request')
    (hextra : EntriesSameButSecrets extra extra') :
    capture c o { d with requestContext := request } extra =
      capture c o { d with requestContext := request' } extra' := by
  unfold capture
  simp only [keptRequest_eq hc hrequest, kept_eq hc hextra, hextra.isEmpty_eq]

/-- A request that comes to the inspector redacted is told as if it were redacted there. -/
theorem keptRequest_diagnosticOf (context : Request.Context) (timestamp : String)
    (report : Entries Value) (hc : c.includeRequestData = true) :
    c.keptRequest (Parity.diagnosticOf context timestamp report).requestContext =
      redact (.map context.params) := by
  have honce : redact (.map (redactEntries context.params)) = redact (.map context.params) :=
    redact_redact (.map context.params)
  rw [Config.keptRequest, if_pos hc, Parity.diagnosticOf, Config.kept]
  split
  · exact honce
  · rfl

end Artifacts

/-- Redaction hides secrets and nothing else.  Values that differ in their secrets alone are redacted
alike, and a second redaction changes nothing.  At a place that is not below a sensitive key a map
keeps its keys, a list its length and a plain value itself.  So artifacts of runs that differ in
their secrets alone are the same, and whatever else differs, what they tell of the request and of
the stages is; a request that comes redacted from a run is told as if it were redacted once. -/
theorem redaction_hides_secrets_only :
    (∀ v w, SameButSecrets v w → redact v = redact w) ∧
    (∀ v, redact (redact v) = redact v) ∧
    (∀ v path, IsOpen path →
      (∀ entries, valueAt path v = some (.map entries) →
        ∃ left, valueAt path (redact v) = some (.map left) ∧
          left.map (·.1) = entries.map (·.1)) ∧
      (∀ items, valueAt path v = some (.list items) ∨ valueAt path v = some (.tuple items) →
        ∃ left, valueAt path (redact v) = some (.list left) ∧ left.length = items.length) ∧
      ∀ x, valueAt path v = some x → IsPlain x → valueAt path (redact v) = some x) ∧
    (∀ (c : Config) o (d : ParityDiagnostic) request request' extra extra',
      c.excludeSensitive = true →
      EntriesSameButSecrets request request' → EntriesSameButSecrets extra extra' →
      capture c o { d with requestContext := request } extra =
        capture c o { d with requestContext := request' } extra') ∧
    (∀ (c : Config) o o' d d' extra extra' artifact artifact', c.excludeSensitive = true →
      EntriesSameButSecrets d.requestContext d'.requestContext →
      EntriesSameButSecrets extra extra' →
      capture c o d extra = .ok artifact → capture c o' d' extra' = .ok artifact' →
      artifact.get? "request" = artifact'.get? "request" ∧
        artifact.get? "pipeline" = artifact'.get? "pipeline") ∧
    ∀ (c : Config) context timestamp report, c.includeRequestData = true →
      c.keptRequest (Parity.diagnosticOf context timestamp report).requestContext =
        redact (.map context.params) := by
  refine ⟨fun v w h => h.redact_eq, redact_redact, fun v path hopen => ?_,
    fun c o d request request' extra extra' hc hrequest hextra => capture_eq hc hrequest hextra,
    fun c o o' d d' extra extra' artifact artifact' hc hrequest hextra h h' => ?_,
    fun c context timestamp report hc => keptRequest_diagnosticOf context timestamp report hc⟩
  · rw [valueAt_redact hopen v]
    refine ⟨fun entries h => ?_, fun items h => ?_, fun x h hplain => ?_⟩
    · rw [h]
      exact ⟨redactEntries entries, rfl, keys_redactEntries entries⟩
    · have hlength : (redactItems items).length = items.length := by simp [redactItems_eq_map]
      rcases h with h | h
      · rw [h]
        exact ⟨redactItems items, rfl, hlength⟩
      · rw [h]
        exact ⟨redactItems items, rfl, hlength⟩
    · rw [h, Option.map_some, redact_of_isPlain hplain]
  · obtain ⟨hrequests, hpipelines⟩ := parts_of_capture h
    obtain ⟨hrequests', hpipelines'⟩ := parts_of_capture h'
    rw [hrequests, hrequests', hpipelines, hpipelines', keptRequest_eq hc hrequest,
      kept_eq hc hextra, hextra.isEmpty_eq]
    exact ⟨rfl, rfl⟩

/-- The parameters of a request with a token and with an order that names a column by a key. -/
def requestWith (token : Value) : Entries Value :=
  [("draw", .int 1), ("user", .map [("auth_token", token), ("name", .text "alice")]),
    ("items", .tuple [.map [("Password", token), ("qty", .int 1)]])]

theorem sameButSecrets_requestWith (token other : Value) :
    EntriesSameButSecrets (requestWith token) (requestWith other) :=
  .entry _ (.same _) (.entry _ (.map (.secret _ _ (by decide) (.entry _ (.same _) .nil)))
    (.entry _ (.tuple (.cons (.map (.secret _ _ (by decide) (.entry _ (.same _) .nil))) .nil)) .nil))

/-- An inspector that redacts what it keeps. -/
def redacting : Config := ⟨true, .of usualDirectory, 100, 7, 10485760, false, true, true, false⟩

/-- The diagnostic of a run without differences, and the occasion of its artifact. -/
def diagnosticWith (timestamp : String) (token : Value) : ParityDiagnostic :=
  ⟨timestamp, "orders.index", "orders", [], requestWith token⟩

@[inherit_doc diagnosticWith]
def occasionAt (now : Int) : Occasion := ⟨now, now, "", "", "", "testing", [], []⟩

/-- The token of a request is not told by two artifacts that are made at different times. -/
theorem token_hidden_requestWith :
    redact (.map (requestWith (.text "s"))) = redact (.map (requestWith (.list []))) ∧
      redact (redact (.map (requestWith (.text "s")))) = redact (.map (requestWith (.text "s"))) ∧
      valueAt [.entry "user", .entry "name"] (redact (.map (requestWith (.text "s")))) =
        some (.text "alice") ∧
      ∃ artifact artifact',
        capture redacting (occasionAt 0) (diagnosticWith "t" (.text "s")) (requestWith .null) =
          .ok artifact ∧
        capture redacting (occasionAt 9) (diagnosticWith "u" (.list [])) (requestWith (.int 7)) =
          .ok artifact' ∧
        artifact.get? "request" = artifact'.get? "request" ∧
        artifact.get? "pipeline" = artifact'.get? "pipeline" := by
  obtain ⟨hsame, htwice, hplaces, -, hparts, -⟩ := redaction_hides_secrets_only
  have hopen : IsOpen [.entry "user", .entry "name"] := by
    have hall : ∀ key ∈ ["user", "name"], isSensitive key = false := by decide
    intro key hkey
    exact hall key (by simpa using hkey)
  obtain ⟨artifact, h⟩ : ∃ artifact, capture redacting (occasionAt 0)
      (diagnosticWith "t" (.text "s")) (requestWith .null) = .ok artifact := ⟨_, rfl⟩
  obtain ⟨artifact', h'⟩ : ∃ artifact, capture redacting (occasionAt 9)
      (diagnosticWith "u" (.list [])) (requestWith (.int 7)) = .ok artifact := ⟨_, rfl⟩
  exact ⟨hsame _ _ (.map (sameButSecrets_requestWith _ _)), htwice _,
    (hplaces _ _ hopen).2.2 _ rfl ⟨rfl, rfl⟩, artifact, artifact', h, h',
    hparts _ _ _ _ _ _ _ _ _ rfl (sameButSecrets_requestWith _ _)
      (sameButSecrets_requestWith _ _) h h'⟩

end AdminGrid.Inspector
