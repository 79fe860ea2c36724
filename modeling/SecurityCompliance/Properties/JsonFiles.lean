import SecurityCompliance.Dashboard.Json
import SecurityCompliance.Python.JsonRoundTrip

/-!
# What the JSON files say

Both scripts write a JSON file beside their text or HTML page, and `json.loads` reads each back
as the dict the script dumped (`loads_jsonFiles`, from `loads_dumps`).  This module says what a
reader finds in them.

* The compliance rate in `security-compliance-report.json` reads back as the very number the
  text report prints with `:.2f` (`complianceRate_generateJsonReport`), and the one in
  `security-dashboard.json` as the number the dashboard prints with `:.1f`
  (`complianceRate_dashboardJson`): `float.__repr__` writes the shortest digits that read back
  as the same binary64 value.
* `layer_statistics` reads back layer by layer, in order, with each layer's counts
  (`layerStatistics_generateJsonReport`), unless a layer cell is `None` and another is the
  string `"null"`: `json.dumps` writes the key `None` as `"null"`, and the reader keeps one
  layer for the two (`length_layerStatistics_lt`), where the text report prints both.
-/

namespace SecurityCompliance

open PyFloat SecurityDashboard Json

/-- **Both JSON files read back.** For every report and every dashboard run, `json.loads` of the
text each script writes gives back the dict it dumped: its numbers as their texts, its strings
as their code points, the items of each `dict` set in order. -/
theorem loads_jsonFiles (A : List Assessment) (s : Summary) (timestamp : String)
    (d : DashboardData) :
    loads (generateJsonReport A s) = some (jsonReport A s).toJson ∧
      loads (dashboardJson timestamp d) = some (d.toPyValue timestamp).toJson :=
  ⟨loads_dumps _, loads_dumps _⟩

/-! ## The compliance rate -/

/-- **The JSON report's rate is the printed rate.** For every report, `summary.compliance_rate`
of the file reads back as the number `generate_summary` computed, and printed with `:.2f` it is
the `Compliance Rate` line of the text report. -/
theorem complianceRate_generateJsonReport (A : List Assessment) (s : Summary) :
    ∃ j t, loads (generateJsonReport A s) = some j ∧
      (j.get (pyStr "summary") .null >>= fun sm => sm.get (pyStr "compliance_rate") .null) =
        .ok (.number t) ∧
      numberOfText t = pyRate s.implemented s.applicable ∧
      complianceRateLine s = "Compliance Rate: " ++ (numberOfText t).formatFixed 2 ++ "%" := by
  have hn := numberOfText_jsonText (isFinite_pyRate s.implemented s.applicable)
  exact ⟨_, _, loads_dumps _, rfl, hn, by rw [hn]; rfl⟩

/-- **The dashboard file's rate is the printed rate.** For every run, `compliance_metrics.
compliance_rate` of `security-dashboard.json` reads back as the number
`calculate_compliance_metrics` computed, and printed with `:.1f` it is the `Compliance Rate`
line of the dashboard summary. -/
theorem complianceRate_dashboardJson (timestamp : String) (d : DashboardData) :
    ∃ j t, loads (dashboardJson timestamp d) = some j ∧
      (j.get (pyStr "compliance_metrics") .null >>= fun m =>
        m.get (pyStr "compliance_rate") .null) = .ok (.number t) ∧
      numberOfText t =
        pyRate d.complianceMetrics.implementedControls d.complianceMetrics.totalControls ∧
      "Compliance Rate: " ++ (numberOfText t).formatFixed 1 ++ "%" ∈
        generateDashboardOutput d.auditMetrics d.complianceMetrics := by
  have hn := numberOfText_jsonText (isFinite_pyRate d.complianceMetrics.implementedControls
    d.complianceMetrics.totalControls)
  refine ⟨_, _, loads_dumps _, rfl, hn, ?_⟩
  rw [hn, generateDashboardOutput]
  simp

/-! ## The layers -/

section Layers

variable (A : List Assessment) (s : Summary)

lemma get_layerStatistics_jsonReport :
    ((jsonReport A s).toJson.get (pyStr "summary") .null >>= fun sm =>
      sm.get (pyStr "layer_statistics") .null) =
      .ok (.object (PyValue.toJsonItems [] (s.layerStatistics.entries.map fun e =>
        (e.1, e.2.toPyValue)))) :=
  rfl

lemma map_fst_layerItems :
    (s.layerStatistics.entries.map fun e => (e.1, e.2.toPyValue)).map Prod.fst =
      s.layerStatistics.keys := by
  rw [List.map_map]; rfl

/-- **`layer_statistics` reads back layer by layer.** When the layer cells are not both `None`
and `"null"`, the file's `layer_statistics` has the summary's layers in order, each under its
text with its three counts. -/
theorem layerStatistics_generateJsonReport
    (hnull : ¬(none ∈ s.layerStatistics.keys ∧ some "null" ∈ s.layerStatistics.keys)) :
    ∃ j, loads (generateJsonReport A s) = some j ∧
      (j.get (pyStr "summary") .null >>= fun sm => sm.get (pyStr "layer_statistics") .null) =
        .ok (.object (s.layerStatistics.entries.map fun e =>
          (pyStr (keyText e.1), e.2.toPyValue.toJson))) := by
  refine ⟨_, loads_dumps _, ?_⟩
  rw [get_layerStatistics_jsonReport, toJsonItems_eq_map
    (by rw [map_fst_layerItems]; exact s.layerStatistics.nodup_keys) (by rwa [map_fst_layerItems]),
    List.map_map]
  rfl

/-- One control in layer `1`: its layer reads back. -/
theorem layerStatistics_generateJsonReport_one_layer :
    let a : Assessment := ⟨some "1", none, none, none, .notApplicable, "No artifact specified",
      some "", none, none, none, none⟩
    let s := generateSummary "" [a]
    ¬(none ∈ s.layerStatistics.keys ∧ some "null" ∈ s.layerStatistics.keys) ∧
    ∃ j, loads (generateJsonReport [a] s) = some j ∧
      (j.get (pyStr "summary") .null >>= fun sm => sm.get (pyStr "layer_statistics") .null) =
        .ok (.object (s.layerStatistics.entries.map fun e =>
          (pyStr (keyText e.1), e.2.toPyValue.toJson))) := by
  intro a s
  have h : ¬(none ∈ s.layerStatistics.keys ∧ some "null" ∈ s.layerStatistics.keys) := by
    decide
  exact ⟨h, layerStatistics_generateJsonReport [a] s h⟩

/-- **A `None` layer and a `"null"` layer merge.** When both occur, the file's
`layer_statistics` has fewer layers than the summary. -/
theorem length_layerStatistics_lt (hnone : none ∈ s.layerStatistics.keys)
    (hnull : some "null" ∈ s.layerStatistics.keys) :
    ∃ j members, loads (generateJsonReport A s) = some j ∧
      (j.get (pyStr "summary") .null >>= fun sm => sm.get (pyStr "layer_statistics") .null) =
        .ok (.object members) ∧ members.length < s.layerStatistics.keys.length := by
  refine ⟨_, _, loads_dumps _, get_layerStatistics_jsonReport A s, ?_⟩
  have hlen := length_toJsonItems_lt
    (s.layerStatistics.entries.map fun e => (e.1, e.2.toPyValue)) fun hnd => by
      have hk : (s.layerStatistics.keys.map (pyStr ∘ keyText)).Nodup := by
        rw [← map_fst_layerItems, List.map_map]; exact hnd
      cases List.inj_on_of_nodup_map hk hnone hnull rfl
  simpa [PyDict.keys] using hlen

/-- A control whose row has no `Layer #` cell and one whose cell is `null`: the text report has
two layers, the JSON file one. -/
theorem length_layerStatistics_lt_none_null :
    let a : Assessment := ⟨none, none, none, none, .notApplicable, "No artifact specified",
      some "", none, none, none, none⟩
    let A := [a, { a with layerNumber := some "null" }]
    let s := generateSummary "" A
    (none ∈ s.layerStatistics.keys ∧ some "null" ∈ s.layerStatistics.keys) ∧
    ∃ j members, loads (generateJsonReport A s) = some j ∧
      (j.get (pyStr "summary") .null >>= fun sm => sm.get (pyStr "layer_statistics") .null) =
        .ok (.object members) ∧ members.length < s.layerStatistics.keys.length := by
  intro a A s
  have hnone : none ∈ s.layerStatistics.keys := by decide
  have hnull : some "null" ∈ s.layerStatistics.keys := by decide
  exact ⟨⟨hnone, hnull⟩, length_layerStatistics_lt A s hnone hnull⟩

end Layers

end SecurityCompliance
