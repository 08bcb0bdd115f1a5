import AdminGrid.Proofs.Page.Counts
import AdminGrid.Proofs.Parity.Severity

/-!
# An answer that is missing

The report on a missing answer has one severity, `maxSeverity`, whatever it is compared with.  The
distance of two payloads has no such limit: it grows with the difference of their numbers of rows.
So the missing answer is the worst that can be reported exactly on payloads that are at most
`maxSeverity` apart.  Further apart, a tolerance that lets the missing answer pass refuses the one
that is there.

The two answers to one page are never that far apart unless the page is long, because neither of
them shows more rows than the page may have.
-/

namespace AdminGrid.Parity

theorem withinTolerance_compare_none (direct : Entries Value) (allowed : Int) :
    withinTolerance (compare direct none) allowed = .ok (decide (maxSeverity ≤ allowed)) := by
  have hseverity : severity (compare direct none) = .ok (.int maxSeverity) := rfl
  rw [withinTolerance, hseverity, ← atMost_int]
  rfl

namespace Payload

variable (p q : Payload)

/-- Whether the report on two payloads is at most as severe as the one on a missing answer. -/
def AtMostMissing : Prop :=
  ∃ present missing : Int, severity (compare p.entries (some q.entries)) = .ok (.int present) ∧
    severity (compare p.entries none) = .ok (.int missing) ∧ present ≤ missing

/-- Whether the second of two payloads is tolerated wherever it would be if it were missing. -/
def ToleratedLikeMissing : Prop :=
  ∀ allowed, withinTolerance (compare p.entries none) allowed = .ok true →
    withinTolerance (compare p.entries (some q.entries)) allowed = .ok true

theorem atMostMissing_iff : p.AtMostMissing q ↔ (p.distance q : Int) ≤ maxSeverity := by
  constructor
  · rintro ⟨present, missing, hpresent, hmissing, hle⟩
    rw [p.severity_compare q] at hpresent
    obtain rfl : (p.distance q : Int) = present := Numeral.int.inj (Except.ok.inj hpresent)
    obtain rfl : maxSeverity = missing := Numeral.int.inj (Except.ok.inj hmissing)
    exact hle
  · exact fun hle => ⟨_, _, p.severity_compare q, rfl, hle⟩

theorem toleratedLikeMissing_iff :
    p.ToleratedLikeMissing q ↔ (p.distance q : Int) ≤ maxSeverity := by
  unfold ToleratedLikeMissing
  simp only [withinTolerance_compare_none, withinTolerance_compare, Except.ok.injEq,
    decide_eq_true_eq]
  constructor
  · -- the least tolerance under which the missing answer passes
    exact fun h => h maxSeverity (Int.le_refl _)
  · exact fun hle allowed hallowed => Int.le_trans hle hallowed

variable {p q}

theorem distance_le_of_length_le {n : Nat} (hp : p.rows.length ≤ n) (hq : q.rows.length ≤ n) :
    p.distance q ≤ n + 2 := by
  have hone : ∀ k m : Int, apart k m ≤ 1 := fun k m => by unfold apart; split <;> decide
  have htotal := hone p.total q.total
  have hfiltered := hone p.filtered q.filtered
  unfold distance
  omega

end Payload

/-- An answer whose counts belong together is a payload that has no more rows than the page. -/
theorem exists_payload_of_countsAgree {request : PagingRequest} {wire : Entries Value}
    (h : CountsAgree request wire) :
    ∃ p : Payload, p.entries = wire ∧ (p.rows.length : Int) ≤ request.length := by
  obtain ⟨total, filtered, rows, htotal, hfiltered, hrows, hcounts⟩ := h
  refine ⟨⟨wire, total, filtered, rows, ?_, ?_, ?_⟩, rfl, ?_⟩
  · rw [cellAt, htotal]
    rfl
  · rw [cellAt, hfiltered]
    rfl
  · rw [cellAt, hrows]
    rfl
  · rw [hcounts.shown]
    exact Int.min_le_left _ _

/-- A missing answer is the worst that can be reported exactly on payloads that are at most
`maxSeverity` apart, and so is it the last that is tolerated. -/
theorem missing_is_worst_iff (p q : Payload) :
    (p.AtMostMissing q ↔ (p.distance q : Int) ≤ maxSeverity) ∧
    (p.ToleratedLikeMissing q ↔ (p.distance q : Int) ≤ maxSeverity) :=
  ⟨p.atMostMissing_iff q, p.toleratedLikeMissing_iff q⟩

/-- Two answers with the same counts, one of which shows more rows than `maxSeverity` and the other
none, are reported as worse than a missing answer. -/
theorem worse_than_missing {rows : List Value} (h : maxSeverity < rows.length) :
    severity (compare (Payload.of 1 0 0 rows).entries (some (Payload.of 1 0 0 []).entries)) =
      .ok (.int rows.length) ∧
    ¬ (Payload.of 1 0 0 rows).AtMostMissing (.of 1 0 0 []) ∧
    ¬ (Payload.of 1 0 0 rows).ToleratedLikeMissing (.of 1 0 0 []) := by
  have hdistance : (Payload.of 1 0 0 rows).distance (.of 1 0 0 []) = rows.length := by
    show 0 + 0 + ((rows.length : Int) - (0 : Nat)).natAbs = rows.length
    omega
  refine ⟨?_, ?_, ?_⟩
  · rw [Payload.severity_compare, hdistance]
  · rw [Payload.atMostMissing_iff, hdistance]
    omega
  · rw [Payload.toleratedLikeMissing_iff, hdistance]
    omega

/-- A missing answer is not the worst beside ten thousand rows, and it passes where the answer that
is there is refused. -/
theorem missing_not_worst_tenThousandRows :
    severity (compare (Payload.of 1 0 0 (List.replicate 10000 .null)).entries
      (some (Payload.of 1 0 0 []).entries)) = .ok (.int 10000) ∧
    severity (compare (Payload.of 1 0 0 (List.replicate 10000 .null)).entries none) =
      .ok (.int 9999) ∧
    ¬ (Payload.of 1 0 0 (List.replicate 10000 .null)).AtMostMissing (.of 1 0 0 []) ∧
    ¬ (Payload.of 1 0 0 (List.replicate 10000 .null)).ToleratedLikeMissing (.of 1 0 0 []) := by
  have hlength : (List.replicate 10000 Value.null).length = 10000 := List.length_replicate
  have hlong : maxSeverity < ((List.replicate 10000 Value.null).length : Int) := by
    rw [hlength]
    decide
  obtain ⟨hpresent, hworse, hrefused⟩ := worse_than_missing hlong
  rw [hlength] at hpresent
  exact ⟨hpresent, rfl, hworse, hrefused⟩

/-- Whatever the two compilations answer to a page that is not too long, no tolerance refuses it
where it lets a missing answer pass. -/
theorem missing_is_worst_of_page {source : Source} {c : Request.Context}
    (hstart : 0 ≤ c.paging.start) (hlength : 1 ≤ c.paging.length)
    (hshort : c.paging.length + 2 ≤ maxSeverity) {direct : Entries Value}
    {staged : PagingResponse} (hdirect : Direct.compile source c = .ok direct)
    (hstaged : (Staged.compile source c).1 = .ok staged) :
    ∃ p q : Payload, p.entries = direct ∧ q.entries = staged.toWire false ∧
      p.AtMostMissing q ∧ p.ToleratedLikeMissing q := by
  rw [Staged.compile_fst] at hstaged
  obtain ⟨p, hp, hrows⟩ := exists_payload_of_countsAgree
    (Direct.countsAgree_of_compile hstart hlength hdirect)
  obtain ⟨q, hq, hrows'⟩ := exists_payload_of_countsAgree
    (Staged.countsAgree_of_answer hstart hlength hstaged false)
  have hdistance : p.distance q ≤ c.paging.length.toNat + 2 :=
    Payload.distance_le_of_length_le (by omega) (by omega)
  have hle : (p.distance q : Int) ≤ maxSeverity := by omega
  exact ⟨p, q, hp, hq, (p.atMostMissing_iff q).2 hle, (p.toleratedLikeMissing_iff q).2 hle⟩

end AdminGrid.Parity
