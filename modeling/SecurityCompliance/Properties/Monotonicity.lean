import SecurityCompliance.Properties.Agreement

/-!
# A growing filesystem only raises compliance

Compare two runs over the same checklist, the second on a filesystem that grew
(`F ⊆ F'`).  `glob` and `os.path.exists` are monotone (`Filesystem/Glob.lean`), so every
control's status can only move from Missing to Implemented (`status_assessControl_grows`),
which moves the counters of its layer as `Status.Grows.counts` says.

That relation between statuses is preserved by both grouping loops: by the simulation lemma
`PyDict.tally_rel`, the two runs build the same layers in the same order, and each layer's
record changes only by moving rows from missing to implemented (`layerStatistics_grows`,
`layerMetrics_grows`).  The rates then rise, since in every rate the denominator stays and
the numerator does not fall (`rate_le_rate_of_num_le`).
-/

namespace SecurityCompliance

open SecurityDashboard

lemma rate_le_rate_of_num_le {x x' : ℕ} (h : x ≤ x') (y : ℕ) : rate x y ≤ rate x' y := by
  unfold rate
  split_ifs
  · gcongr
  · rfl

/-- How a status that grows moves the three counters of its layer: the Not Applicable one
stays, and a row can only move from missing to implemented. -/
lemma Status.Grows.counts {st st' : Status} (h : st.Grows st') :
    (if st' = .notApplicable then 1 else 0) = (if st = .notApplicable then 1 else 0) ∧
    (if st = .implemented then 1 else 0) ≤ (if st' = .implemented then 1 else 0) ∧
    (if st' = .missing then 1 else 0) ≤ (if st = .missing then 1 else 0) ∧
    (if st' = .implemented then 1 else 0) + (if st' = .missing then 1 else 0) =
      (if st = .implemented then 1 else 0) + (if st = .missing then 1 else 0) := by
  unfold Status.Grows at h
  revert h
  cases st <;> cases st' <;> decide

section

variable {F F' : Snapshot} (hF : F ⊆ F') (now : String) (checklist : List Row)

include hF

lemma countP_implemented_mono :
    checklist.countP (fun r => (assessControl F r).status = .implemented) ≤
      checklist.countP (fun r => (assessControl F' r).status = .implemented) :=
  List.countP_mono_left fun r _ h => by
    simpa using (status_assessControl_grows hF r).2 (by simpa using h)

lemma countP_missing_anti :
    checklist.countP (fun r => (assessControl F' r).status = .missing) ≤
      checklist.countP (fun r => (assessControl F r).status = .missing) :=
  List.countP_mono_left fun r _ h => by
    simpa using (status_assessControl_grows hF r).missing (by simpa using h)

lemma countP_notApplicable_eq :
    checklist.countP (fun r => (assessControl F' r).status = .notApplicable) =
      checklist.countP (fun r => (assessControl F r).status = .notApplicable) :=
  List.countP_congr fun r _ => by simpa using (status_assessControl_grows hF r).1.symm

/-- The report's layer records of the two runs: the same layers in the same order, each with
the same Not Applicable and applicable counts and no fewer implemented controls. -/
lemma layerStatistics_grows :
    PyDict.EntriesRel
      (fun s s' => s'.notApplicable = s.notApplicable ∧
        s'.implemented + s'.missing = s.implemented + s.missing ∧ s.implemented ≤ s'.implemented)
      (generateSummary now (checklist.map (assessControl F))).layerStatistics.entries
      (generateSummary now (checklist.map (assessControl F'))).layerStatistics.entries := by
  rw [layerStatistics_eq_tally, layerStatistics_eq_tally]
  refine PyDict.tally_rel checklist (fun _ _ => rfl) ⟨rfl, rfl, le_rfl⟩ fun r _ s s' hs => ?_
  have := (status_assessControl_grows hF r).counts
  simp only [LayerStats.record_implemented, LayerStats.record_missing,
    LayerStats.record_notApplicable]
  omega

/-- The dashboard's layer records of the two runs: the same layers in the same order, each
with the same total, no fewer implemented and no more missing controls. -/
lemma layerMetrics_grows :
    PyDict.EntriesRel
      (fun m m' => m'.total = m.total ∧ m.implemented ≤ m'.implemented ∧ m'.missing ≤ m.missing)
      (calculateComplianceMetrics F checklist).layerMetrics.entries
      (calculateComplianceMetrics F' checklist).layerMetrics.entries := by
  refine PyDict.tally_rel checklist (fun _ _ => rfl) ⟨rfl, le_rfl, le_rfl⟩ fun r _ m m' hm => ?_
  have := (status_assessControl_grows hF r).counts
  simp only [updateLayer_total, updateLayer_implemented, updateLayer_missing]
  omega

end

end SecurityCompliance
