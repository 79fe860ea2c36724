import SecurityCompliance.Dashboard.Audit
import Mathlib.Tactic.GCongr
import Mathlib.Tactic.NormNum
import Mathlib.Tactic.Positivity

/-!
# The dashboard against the report

The two scripts aggregate the same checklist with separate code.  This module relates them.

*Counts and layers.*  The dashboard's two loops classify every row as `assess_control` does
(`Dashboard/Metrics.lean`), so its totals are the report's (`dashboard_counts_eq`).  Its
grouping loop is the report's grouping loop up to the record type: by the simulation lemma
`PyDict.tally_rel`, with the relation "the dashboard's record is the report's record, its
three counters summed into `total`", the two dicts have the same keys in the same order and
corresponding records, as soon as both loops compute the same key for every row
(`layerMetrics_eq_map_layerStatistics`).  They do not always: a row without a `Layer #`
column is filed under `"Unknown"` by the dashboard and under `""` by the report
(`layer_keys_differ_without_layer_column`).  The rows `load_checklist` returns all have the
header's columns, so for a loaded checklist one row with the column is enough
(`layerMetrics_eq_of_loadChecklist`).  Run end to end on one checklist file, the two scripts
therefore agree on the totals and either agree on the layer table or each file every control
under a single layer of its own (`main_layers_agree_or_single_layer`).

*Rates.*  The report divides by the applicable controls, the dashboard by all controls, Not
Applicable ones included, both globally and per layer.  So the dashboard's rates never exceed
the report's and agree with them when no control is Not Applicable
(`dashboard_rates_vs_report_rates`), and differ as soon as one is and some control is
implemented (`dashboard_rate_ne_report_rate`).
-/

namespace SecurityCompliance

open SecurityDashboard

/-- A larger denominator gives a smaller rate. -/
lemma rate_le_rate {x y z : ℕ} (hxy : x ≤ y) (hyz : y ≤ z) : rate x z ≤ rate x y := by
  unfold rate
  rcases Nat.eq_zero_or_pos y with rfl | hy
  · obtain rfl : x = 0 := Nat.le_zero.1 hxy
    simp
  · have hz : 0 < z := lt_of_lt_of_le hy hyz
    simp only [hy, hz, if_true]
    gcongr

/-- The dashboard's record of a layer whose report record is `s`. -/
def LayerStats.toMetrics (s : LayerStats) : LayerMetrics :=
  ⟨s.implemented + s.missing + s.notApplicable, s.implemented, s.missing⟩

section

variable (F : Snapshot) (now : String) (checklist : List Row)

/-- The report's layer loop over the assessments is a layer loop over the rows. -/
lemma layerStatistics_eq_tally :
    (generateSummary now (checklist.map (assessControl F))).layerStatistics =
      PyDict.tally (fun r : Row => r.get "Layer #" (some "")) LayerStats.zero
        (fun r s => s.record (assessControl F r).status.text) checklist := by
  simp only [generateSummary, PyDict.tally, List.foldl_map]
  rfl

lemma dashboard_counts_eq :
    (calculateComplianceMetrics F checklist).totalControls =
        (generateSummary now (checklist.map (assessControl F))).totalControls ∧
    (calculateComplianceMetrics F checklist).implementedControls =
        (generateSummary now (checklist.map (assessControl F))).implemented ∧
    (calculateComplianceMetrics F checklist).missingControls =
        (generateSummary now (checklist.map (assessControl F))).missing := by
  obtain ⟨ht, hi, hm⟩ := calculateComplianceMetrics_counts F checklist
  rw [ht, hi, hm, generateSummary_implemented, generateSummary_missing, List.countP_map,
    List.countP_map]
  exact ⟨(List.length_map _ _).symm, rfl, rfl⟩

/-- With a `Layer #` cell in every row, the dashboard's layer records are the report's,
key by key and in the same order. -/
lemma layerMetrics_eq_map_layerStatistics (h : ∀ r ∈ checklist, "Layer #" ∈ r.keys) :
    (calculateComplianceMetrics F checklist).layerMetrics.entries =
      (generateSummary now (checklist.map (assessControl F))).layerStatistics.entries.map
        fun e => (e.1, e.2.toMetrics) := by
  have hrel : PyDict.EntriesRel (fun s m => s.toMetrics = m)
      (generateSummary now (checklist.map (assessControl F))).layerStatistics.entries
      (calculateComplianceMetrics F checklist).layerMetrics.entries := by
    rw [layerStatistics_eq_tally]
    refine PyDict.tally_rel checklist (fun r hr => PyDict.get_eq_of_mem_keys (h r hr) _ _) rfl ?_
    rintro r - s _ rfl
    cases h : (assessControl F r).status <;> ext <;> simp [LayerStats.toMetrics, h] <;> omega
  symm
  rw [← List.forall₂_eq_eq_eq, List.forall₂_map_left_iff]
  refine hrel.imp ?_
  rintro e e' ⟨hk, hv⟩
  exact Prod.ext hk hv

/-- **The dashboard refines the report's counts.** Its totals are the report's, and when every
row has a `Layer #` cell its layer table lists the report's layers in the same order, each
with the report's implemented and missing counts and the sum of the three report counters
as its total. -/
theorem calculateComplianceMetrics_refines_generateSummary :
    (calculateComplianceMetrics F checklist).totalControls =
        (generateSummary now (checklist.map (assessControl F))).totalControls ∧
    (calculateComplianceMetrics F checklist).implementedControls =
        (generateSummary now (checklist.map (assessControl F))).implemented ∧
    (calculateComplianceMetrics F checklist).missingControls =
        (generateSummary now (checklist.map (assessControl F))).missing ∧
    ((∀ r ∈ checklist, "Layer #" ∈ r.keys) →
      (calculateComplianceMetrics F checklist).layerMetrics.entries =
        (generateSummary now (checklist.map (assessControl F))).layerStatistics.entries.map
          fun e => (e.1, ⟨e.2.implemented + e.2.missing + e.2.notApplicable, e.2.implemented,
            e.2.missing⟩)) :=
  ⟨(dashboard_counts_eq F now checklist).1, (dashboard_counts_eq F now checklist).2.1,
    (dashboard_counts_eq F now checklist).2.2, layerMetrics_eq_map_layerStatistics F now checklist⟩

end

theorem calculateComplianceMetrics_refines_generateSummary_one_layer :
    (∀ r ∈ ([⟨[("Layer #", some "1"), ("Policy/Config Artifact", some "")], by decide⟩] : List Row),
        "Layer #" ∈ r.keys) ∧
      (calculateComplianceMetrics Snapshot.empty
          [⟨[("Layer #", some "1"), ("Policy/Config Artifact", some "")], by decide⟩]).layerMetrics.entries =
        (generateSummary "" (([⟨[("Layer #", some "1"), ("Policy/Config Artifact", some "")],
            by decide⟩] : List Row).map (assessControl Snapshot.empty))).layerStatistics.entries.map
          fun e => (e.1, ⟨e.2.implemented + e.2.missing + e.2.notApplicable, e.2.implemented,
            e.2.missing⟩) :=
  ⟨by decide, (calculateComplianceMetrics_refines_generateSummary Snapshot.empty ""
    [⟨[("Layer #", some "1"), ("Policy/Config Artifact", some "")], by decide⟩]).2.2.2 (by decide)⟩

/-- **For a loaded checklist one row decides.** The rows `load_checklist` returns have the
same columns, so as soon as one of them has a `Layer #` cell the dashboard's layer records
are the report's, key by key and in the same order. -/
theorem layerMetrics_eq_of_loadChecklist (F : Snapshot) (now filename : String)
    (contents : Option String) {checklist : List Row}
    (h : SecurityDashboard.loadChecklist filename contents = .ok checklist)
    (hl : ∃ r ∈ checklist, "Layer #" ∈ r.keys) :
    (calculateComplianceMetrics F checklist).layerMetrics.entries =
      (generateSummary now (checklist.map (assessControl F))).layerStatistics.entries.map
        fun e => (e.1, e.2.toMetrics) := by
  obtain ⟨r, hr, hk⟩ := hl
  refine layerMetrics_eq_map_layerStatistics F now checklist fun r' hr' => ?_
  rwa [keys_eq_of_mem_loadChecklist h hr' hr]

example :
    let contents := some "Layer #,Policy/Config Artifact\r\n1,a\r\n2\r\n"
    let checklist : List Row :=
      [⟨[("Layer #", some "1"), ("Policy/Config Artifact", some "a")], by decide⟩,
        ⟨[("Layer #", some "2"), ("Policy/Config Artifact", none)], by decide⟩]
    let S := generateSummary "" (checklist.map (assessControl Snapshot.empty))
    SecurityDashboard.loadChecklist checklistFile contents = .ok checklist ∧
      (∃ r ∈ checklist, "Layer #" ∈ r.keys) ∧
      (calculateComplianceMetrics Snapshot.empty checklist).layerMetrics.entries =
        S.layerStatistics.entries.map fun e => (e.1, e.2.toMetrics) :=
  ⟨rfl, by decide, layerMetrics_eq_of_loadChecklist Snapshot.empty "" checklistFile
    (some "Layer #,Policy/Config Artifact\r\n1,a\r\n2\r\n") rfl (by decide)⟩

/-- **The two scripts on one checklist file.** When the report script and the dashboard
script both finish on the same checklist file and filesystem, the dashboard's totals are the
report's; and either its layer table is the report's, or the file has no `Layer #` column and
each script files every control under one layer of its own, `"Unknown"` on the dashboard and
`""` in the report. -/
theorem main_layers_agree_or_single_layer (F : Snapshot) (now now' : String)
    (contents : Option String) (auditRun denyRun : ToolRun)
    {R : List Assessment × Summary × TextReport} {D : DashboardData}
    (hR : ComplianceReport.main F now contents = .ok R)
    (hD : SecurityDashboard.main F now' contents auditRun denyRun = .ok D) :
    D.complianceMetrics.totalControls = R.2.1.totalControls ∧
    D.complianceMetrics.implementedControls = R.2.1.implemented ∧
    D.complianceMetrics.missingControls = R.2.1.missing ∧
    (D.complianceMetrics.layerMetrics.entries =
        R.2.1.layerStatistics.entries.map (fun e => (e.1, e.2.toMetrics)) ∨
      D.complianceMetrics.layerMetrics.keys = [some "Unknown"] ∧
        R.2.1.layerStatistics.keys = [some ""]) := by
  obtain ⟨checklist, hc, rfl⟩ := ComplianceReport.main_eq_ok hR
  obtain ⟨checklist', hc', hD⟩ := SecurityDashboard.main_eq_ok hD
  obtain rfl : checklist' = checklist := Except.ok.inj (hc'.symm.trans hc)
  rw [hD]
  obtain ⟨ht, hi, hm⟩ := dashboard_counts_eq F now checklist'
  refine ⟨ht, hi, hm, ?_⟩
  by_cases hl : ∃ r ∈ checklist', "Layer #" ∈ r.keys
  · exact .inl (layerMetrics_eq_of_loadChecklist F now checklistFile contents hc' hl)
  rcases checklist' with _ | ⟨r, rs⟩
  · exact .inl rfl
  push_neg at hl
  have hget : ∀ (d : Option String), ∀ r' ∈ r :: rs, r'.get "Layer #" d = d :=
    fun d r' hr' => PyDict.get_of_not_mem (hl r' hr') d
  refine .inr ⟨?_, ?_⟩
  · rw [keys_calculateComplianceMetrics]
    exact PyDict.eraseDups_map_of_forall_eq (List.cons_ne_nil _ _) (hget _)
  · show (generateSummary now ((r :: rs).map (assessControl F))).layerStatistics.keys = _
    rw [keys_generateSummary, List.map_map]
    exact PyDict.eraseDups_map_of_forall_eq (List.cons_ne_nil _ _) (hget _)

theorem main_layers_agree_or_single_layer_one_row :
    let F : Snapshot := ⟨[⟨["a"], false⟩], by decide, by decide, by decide⟩
    let contents := some "Layer #,Policy/Config Artifact\r\n1,a\r\n"
    let checklist : List Row :=
      [⟨[("Layer #", some "1"), ("Policy/Config Artifact", some "a")], by decide⟩]
    let R := complianceReport F "" checklist
    let D : DashboardData :=
      ⟨⟨"", .error "Cargo audit not available", .error "Cargo deny not available"⟩,
        calculateComplianceMetrics F checklist⟩
    ComplianceReport.main F "" contents = .ok R ∧
    SecurityDashboard.main F "" contents .notInstalled .notInstalled = .ok D ∧
    D.complianceMetrics.totalControls = R.2.1.totalControls ∧
    D.complianceMetrics.implementedControls = R.2.1.implemented ∧
    D.complianceMetrics.missingControls = R.2.1.missing ∧
    (D.complianceMetrics.layerMetrics.entries =
        R.2.1.layerStatistics.entries.map (fun e => (e.1, e.2.toMetrics)) ∨
      D.complianceMetrics.layerMetrics.keys = [some "Unknown"] ∧
        R.2.1.layerStatistics.keys = [some ""]) := by
  intro F contents checklist R D
  have hR : ComplianceReport.main F "" contents = .ok R := rfl
  have hD : SecurityDashboard.main F "" contents .notInstalled .notInstalled = .ok D := rfl
  exact ⟨hR, hD, main_layers_agree_or_single_layer F "" "" contents .notInstalled .notInstalled
    hR hD⟩

/-- A row without a `Layer #` column is filed under `"Unknown"` by the dashboard and under `""`
by the report. -/
theorem layer_keys_differ_without_layer_column :
    (calculateComplianceMetrics Snapshot.empty [(PyDict.empty : Row)]).layerMetrics.keys ≠
      (generateSummary "" ([(PyDict.empty : Row)].map (assessControl Snapshot.empty))).layerStatistics.keys := by
  decide

section

variable (F : Snapshot) (now : String) (checklist : List Row)

/-- **The dashboard's rates against the report's.** The dashboard's rates never exceed the
report's; globally they agree when no control is Not Applicable, and, when every row has a
`Layer #` cell, the two layer tables list the same layers in the same order, each layer's
rates agreeing when it has no Not Applicable control. -/
theorem dashboard_rates_vs_report_rates :
    (calculateComplianceMetrics F checklist).complianceRate ≤
      (generateSummary now (checklist.map (assessControl F))).complianceRate ∧
    ((generateSummary now (checklist.map (assessControl F))).notApplicable = 0 →
      (calculateComplianceMetrics F checklist).complianceRate =
        (generateSummary now (checklist.map (assessControl F))).complianceRate) ∧
    ((∀ r ∈ checklist, "Layer #" ∈ r.keys) →
      List.Forall₂ (fun (h : HtmlLayerRow) (t : TextLayerLine) =>
          h.layer = t.layer ∧ h.rate ≤ t.rate ∧ (h.total = t.applicable → h.rate = t.rate))
        (htmlLayerRows (calculateComplianceMetrics F checklist))
        (generateTextReport (checklist.map (assessControl F))
          (generateSummary now (checklist.map (assessControl F)))).layers) := by
  obtain ⟨ht, hi, -⟩ := dashboard_counts_eq F now checklist
  have hM : (calculateComplianceMetrics F checklist).complianceRate =
      rate (generateSummary now (checklist.map (assessControl F))).implemented
        (generateSummary now (checklist.map (assessControl F))).totalControls := by
    rw [← ht, ← hi]; rfl
  have hsum := applicable_add_notApplicable (checklist.map (assessControl F)) now
  refine ⟨?_, fun hna => ?_, fun h => ?_⟩
  · rw [hM, complianceRate_generateSummary]
    exact rate_le_rate (implemented_le_applicable _ _) (by omega)
  · rw [hM, complianceRate_generateSummary, ← hsum, hna, Nat.add_zero]
  · rw [htmlLayerRows, layerMetrics_eq_map_layerStatistics F now checklist h, List.map_map]
    simp only [generateTextReport, List.forall₂_map_left_iff, List.forall₂_map_right_iff]
    refine List.forall₂_same.2 fun e _ => ?_
    refine ⟨rfl, rate_le_rate (Nat.le_add_right _ _) (Nat.le_add_right _ _), fun htot => ?_⟩
    simp only [Function.comp, htmlLayerRow, textLayerLine, LayerStats.toMetrics] at htot ⊢
    rw [htot]

end

/-- One implemented control in layer 1 and none Not Applicable: the rates agree, globally and
for the layer. -/
theorem dashboard_rates_vs_report_rates_one_layer :
    let F : Snapshot := ⟨[⟨["a"], false⟩], by decide, by decide, by decide⟩
    let checklist : List Row :=
      [⟨[("Layer #", some "1"), ("Policy/Config Artifact", some "a")], by decide⟩]
    (generateSummary "" (checklist.map (assessControl F))).notApplicable = 0 ∧
    (∀ r ∈ checklist, "Layer #" ∈ r.keys) ∧
    (calculateComplianceMetrics F checklist).complianceRate =
      (generateSummary "" (checklist.map (assessControl F))).complianceRate ∧
    List.Forall₂ (fun (h : HtmlLayerRow) (t : TextLayerLine) =>
        h.layer = t.layer ∧ h.rate ≤ t.rate ∧ (h.total = t.applicable → h.rate = t.rate))
      (htmlLayerRows (calculateComplianceMetrics F checklist))
      (generateTextReport (checklist.map (assessControl F))
        (generateSummary "" (checklist.map (assessControl F)))).layers :=
  have h := dashboard_rates_vs_report_rates
    ⟨[⟨["a"], false⟩], by decide, by decide, by decide⟩ ""
    [⟨[("Layer #", some "1"), ("Policy/Config Artifact", some "a")], by decide⟩]
  ⟨by decide, by decide, h.2.1 (by decide), h.2.2 (by decide)⟩

/-- A checklist with one Not Applicable and one implemented control: the dashboard reports
50%, the report 100%. -/
theorem dashboard_rate_ne_report_rate :
    (calculateComplianceMetrics ⟨[⟨["a"], false⟩], by decide, by decide, by decide⟩
        [⟨[("Policy/Config Artifact", some "")], by decide⟩,
          ⟨[("Policy/Config Artifact", some "a")], by decide⟩]).complianceRate = 50 ∧
    (generateSummary "" (([⟨[("Policy/Config Artifact", some "")], by decide⟩,
          ⟨[("Policy/Config Artifact", some "a")], by decide⟩] : List Row).map
        (assessControl ⟨[⟨["a"], false⟩], by decide, by decide, by decide⟩))).complianceRate =
      100 := by
  refine ⟨(?_ : rate 1 2 = 50), (?_ : rate 1 1 = 100)⟩ <;> norm_num [rate]

end SecurityCompliance
