import SecurityCompliance.Report.Summary

/-!
# The dashboard's compliance metrics (`security-dashboard.py`)

`SecurityDashboard.calculate_compliance_metrics` recomputes what the report script computes,
with code of its own: one loop counts implemented and missing controls with
`if artifact and check_artifact_exists(artifact)` / `elif artifact`, a second loop groups the
rows by `Layer #` (default `"Unknown"`, where the report uses `""`) and counts, per layer,
all rows, the implemented and the missing ones.  Its rates divide by the total number of
controls, Not Applicable ones included, globally and per layer.

`generate_html_report` renders one table row per layer; `htmlLayerRow` is the values it
interpolates, with `get_layer_name`'s table and the CSS class of the exact rate
(`Dashboard/Html.lean` writes the page, with the float rate the script computes).

This module evaluates the dashboard's two loops (`calculateComplianceMetrics_counts`,
`get?_calculateComplianceMetrics`); `Properties/Agreement.lean` compares them with the
report.
-/

namespace SecurityCompliance

namespace SecurityDashboard

/-- `SecurityDashboard.load_checklist`, a copy of the report's, on `self.checklist_file`;
`__init__` stores its rows as `self.checklist`. -/
def loadChecklist (checklistFile : String) (contents : Option String) : Except String (List Row) :=
  SecurityCompliance.loadChecklist checklistFile contents

/-- `SecurityDashboard.check_artifact_exists`, a copy of the report's. -/
def checkArtifactExists (F : Snapshot) (artifactPath : String) : Bool :=
  SecurityCompliance.checkArtifactExists F artifactPath

/-- A layer's record in `layer_metrics`. -/
@[ext] structure LayerMetrics where
  total : ℕ
  implemented : ℕ
  missing : ℕ
deriving DecidableEq, Repr

/-- `{"total": 0, "implemented": 0, "missing": 0}`. -/
def LayerMetrics.zero : LayerMetrics := ⟨0, 0, 0⟩

/-- The dict `calculate_compliance_metrics` returns. -/
structure ComplianceMetrics where
  totalControls : ℕ
  implementedControls : ℕ
  missingControls : ℕ
  complianceRate : ℚ
  layerMetrics : PyDict (Option String) LayerMetrics

/-- The body of the counting loop, on `(implemented_controls, missing_controls)`. -/
def countControl (F : Snapshot) (counts : ℕ × ℕ) (control : Row) : ℕ × ℕ :=
  let artifact := control.get artifactColumn (some "")
  if truthy artifact && checkArtifactExists F (artifact.getD "") then (counts.1 + 1, counts.2)
  else if truthy artifact then (counts.1, counts.2 + 1)
  else counts

/-- The body of the grouping loop, on the control's layer record. -/
def updateLayer (F : Snapshot) (control : Row) (m : LayerMetrics) : LayerMetrics :=
  let m := { m with total := m.total + 1 }
  let artifact := control.get artifactColumn (some "")
  if truthy artifact && checkArtifactExists F (artifact.getD "") then
    { m with implemented := m.implemented + 1 }
  else if truthy artifact then { m with missing := m.missing + 1 }
  else m

/-- `calculate_compliance_metrics()` over the loaded checklist. -/
def calculateComplianceMetrics (F : Snapshot) (checklist : List Row) : ComplianceMetrics :=
  let totalControls := checklist.length
  let (implementedControls, missingControls) := checklist.foldl (countControl F) (0, 0)
  { totalControls
    implementedControls
    missingControls
    complianceRate := rate implementedControls totalControls
    layerMetrics :=
      PyDict.tally (·.get "Layer #" (some "Unknown")) LayerMetrics.zero (updateLayer F)
        checklist }

/-! ## The layer table of the HTML report -/

/-- The table of `get_layer_name`. -/
def layerNames : List (String × String) :=
  [("1", "Governance & Policy"), ("2", "Risk & Threat Modeling"),
    ("3", "Secure SDLC & Supply Chain"), ("4", "Identity & Access (IAM)"),
    ("5", "Secrets Management"), ("6", "Key & Cryptography"),
    ("7", "Network Segmentation & Transport"), ("8", "Perimeter & API Gateway"),
    ("9", "Host/Endpoint Hardening"), ("10", "Containers & Orchestration"),
    ("11", "Cloud/IaaS Security"), ("12", "Data Security"), ("13", "Application Security"),
    ("14", "Protocol/API Security"), ("15", "Messaging & Event Security"),
    ("16", "Database Security"), ("17", "Wallet/Custody & Key Ops (Web3)"),
    ("18", "Oracle & Market Data Integrity (Web3)"), ("19", "Privacy & Compliance"),
    ("20", "Observability & Telemetry Security"), ("21", "Detection & Response"),
    ("22", "Resilience, Availability & Chaos")]

/-- `get_layer_name(layer_num)`. -/
def getLayerName : Option String → String
  | some k => (layerNames.lookup k).getD "Unknown Layer"
  | none => "Unknown Layer"

/-- The CSS class of a layer's rate cell. -/
def statusClass (r : ℚ) : String :=
  if r ≥ 90 then "compliant" else if r ≥ 70 then "warning" else "non-compliant"

/-- One row of the `Compliance by Security Layer` table. -/
structure HtmlLayerRow where
  layer : Option String
  layerName : String
  rate : ℚ
  statusClass : String
  implemented : ℕ
  total : ℕ

/-- The row `generate_html_report` writes for a layer: implemented over the layer's total. -/
def htmlLayerRow (layerNum : Option String) (m : LayerMetrics) : HtmlLayerRow :=
  let r := rate m.implemented m.total
  ⟨layerNum, getLayerName layerNum, r, statusClass r, m.implemented, m.total⟩

/-- The layer table of `generate_html_report(audit_metrics, compliance_metrics)`. -/
def htmlLayerRows (metrics : ComplianceMetrics) : List HtmlLayerRow :=
  metrics.layerMetrics.entries.map fun (k, m) => htmlLayerRow k m

/-! ## The two loops, evaluated -/

section Loops

variable (F : Snapshot)

/-- Both loop bodies test the row exactly as `assess_control` classifies it. -/
lemma dashboard_test_eq (r : Row) :
    (truthy (r.get artifactColumn (some "")) &&
        checkArtifactExists F ((r.get artifactColumn (some "")).getD "")) =
      decide ((assessControl F r).status = .implemented) ∧
    (truthy (r.get artifactColumn (some "")) =
      decide ((assessControl F r).status ≠ .notApplicable)) := by
  rw [status_assessControl]
  unfold artifactStatus checkArtifactExists
  constructor <;> split_ifs <;> simp_all

lemma countControl_eq (c : ℕ × ℕ) (r : Row) :
    countControl F c r =
      (c.1 + if (assessControl F r).status = .implemented then 1 else 0,
        c.2 + if (assessControl F r).status = .missing then 1 else 0) := by
  obtain ⟨h1, h2⟩ := dashboard_test_eq F r
  unfold countControl
  dsimp only
  rw [h1, h2]
  cases (assessControl F r).status <;> simp

@[simp] lemma updateLayer_total (r : Row) (m : LayerMetrics) :
    (updateLayer F r m).total = m.total + 1 := by
  unfold updateLayer; dsimp only; split_ifs <;> rfl

@[simp] lemma updateLayer_implemented (r : Row) (m : LayerMetrics) :
    (updateLayer F r m).implemented =
      m.implemented + if (assessControl F r).status = .implemented then 1 else 0 := by
  obtain ⟨h1, h2⟩ := dashboard_test_eq F r
  unfold updateLayer; dsimp only; rw [h1, h2]
  cases (assessControl F r).status <;> simp

@[simp] lemma updateLayer_missing (r : Row) (m : LayerMetrics) :
    (updateLayer F r m).missing =
      m.missing + if (assessControl F r).status = .missing then 1 else 0 := by
  obtain ⟨h1, h2⟩ := dashboard_test_eq F r
  unfold updateLayer; dsimp only; rw [h1, h2]
  cases (assessControl F r).status <;> simp

lemma foldl_countControl (rows : List Row) (c : ℕ × ℕ) :
    rows.foldl (countControl F) c =
      (c.1 + rows.countP (fun r => (assessControl F r).status = .implemented),
        c.2 + rows.countP (fun r => (assessControl F r).status = .missing)) := by
  induction rows generalizing c with
  | nil => rfl
  | cons r rs ih =>
    rw [List.foldl_cons, ih, countControl_eq]
    simp only [List.countP_cons, decide_eq_true_eq, Prod.mk.injEq]
    omega

lemma foldl_updateLayer (rows : List Row) (m : LayerMetrics) :
    rows.foldl (fun v r => updateLayer F r v) m =
      ⟨m.total + rows.length,
        m.implemented + rows.countP (fun r => (assessControl F r).status = .implemented),
        m.missing + rows.countP (fun r => (assessControl F r).status = .missing)⟩ := by
  induction rows generalizing m with
  | nil => rfl
  | cons r rs ih =>
    rw [List.foldl_cons, ih]
    simp only [updateLayer_total, updateLayer_implemented, updateLayer_missing,
      List.countP_cons, decide_eq_true_eq, List.length_cons, LayerMetrics.mk.injEq]
    omega

variable (checklist : List Row)

lemma calculateComplianceMetrics_counts :
    (calculateComplianceMetrics F checklist).totalControls = checklist.length ∧
    (calculateComplianceMetrics F checklist).implementedControls =
      checklist.countP (fun r => (assessControl F r).status = .implemented) ∧
    (calculateComplianceMetrics F checklist).missingControls =
      checklist.countP (fun r => (assessControl F r).status = .missing) := by
  simp [calculateComplianceMetrics, foldl_countControl]

lemma complianceRate_calculateComplianceMetrics :
    (calculateComplianceMetrics F checklist).complianceRate =
      rate (calculateComplianceMetrics F checklist).implementedControls
        (calculateComplianceMetrics F checklist).totalControls := rfl

lemma keys_calculateComplianceMetrics :
    (calculateComplianceMetrics F checklist).layerMetrics.keys =
      (checklist.map (·.get "Layer #" (some "Unknown"))).eraseDups :=
  PyDict.keys_tally (fun r : Row => r.get "Layer #" (some "Unknown")) _ _ checklist

/-- The record of layer `k` counts that layer's rows, and among them the implemented and
the missing ones. -/
lemma get?_calculateComplianceMetrics {k : Option String}
    (hk : k ∈ checklist.map (·.get "Layer #" (some "Unknown"))) :
    (calculateComplianceMetrics F checklist).layerMetrics.get? k =
      some ⟨checklist.countP (fun r => r.get "Layer #" (some "Unknown") = k),
        checklist.countP fun r =>
          r.get "Layer #" (some "Unknown") = k ∧ (assessControl F r).status = .implemented,
        checklist.countP fun r =>
          r.get "Layer #" (some "Unknown") = k ∧ (assessControl F r).status = .missing⟩ := by
  simp only [calculateComplianceMetrics, PyDict.get?_tally, hk, if_true, foldl_updateLayer,
    List.countP_filter, ← List.countP_eq_length_filter]
  simp [LayerMetrics.zero, and_comm]

end Loops

end SecurityDashboard

end SecurityCompliance
