import SecurityCompliance.Report.Assess
import Mathlib.Algebra.Order.Field.Rat

/-!
# The compliance summary and the text report (`generate-compliance-report.py`)

`generate_summary` counts the assessments by status, derives the applicable count and the
compliance rate, and groups the counts by layer in a `dict` built by the grouping loop of
`Python/Dict.lean`.  `generate_text_report` renders the summary and, per layer, the rate over
that layer's applicable controls.  Rates are exact rationals here, and the text report is
the values it interpolates into its lines; `Report/Text.lean` writes the lines out, with the
rates as the Python floats the script prints (`:.2f`, `:.1f`).  `ComplianceReport.main` runs the script on the contents of the
checklist file; its existence check prints what `load_checklist` would (`main_eq`).

The main result, `generateSummary_spec`, is the whole contract of the report's aggregation:
every row lands in exactly one global counter and exactly one layer counter, the layers are
the distinct `Layer #` cells in order of first occurrence, and each layer counter counts that
layer's rows of that status.  It rests on three facts of the grouping loop (`keys_tally`,
`get?_tally`, `sum_tally`) and on `foldl_record`, which evaluates the per-layer update.
-/

namespace SecurityCompliance

/-- `rate(x, y) = (x / y * 100) if y > 0 else 0`, the one rate formula of both scripts. -/
def rate (x y : ℕ) : ℚ := if y > 0 then (x : ℚ) / y * 100 else 0

/-- A layer's record in `layer_statistics`. -/
structure LayerStats where
  implemented : ℕ
  missing : ℕ
  notApplicable : ℕ
deriving DecidableEq, Repr

/-- The record of a layer first seen: `{"implemented": 0, "missing": 0, "not_applicable": 0}`. -/
def LayerStats.zero : LayerStats := ⟨0, 0, 0⟩

/-- The `if`/`elif` chain of `generate_summary` on one status string. -/
def LayerStats.record (status : String) (s : LayerStats) : LayerStats :=
  if status = "Implemented" then { s with implemented := s.implemented + 1 }
  else if status = "Missing" then { s with missing := s.missing + 1 }
  else if status = "Not Applicable" then { s with notApplicable := s.notApplicable + 1 }
  else s

/-- The dict `generate_summary` returns; `generatedAt` is the caller's `datetime.now()`. -/
structure Summary where
  generatedAt : String
  totalControls : ℕ
  implemented : ℕ
  missing : ℕ
  notApplicable : ℕ
  applicable : ℕ
  complianceRate : ℚ
  layerStatistics : PyDict (Option String) LayerStats

/-- `generate_summary(assessments)`. -/
def generateSummary (generatedAt : String) (assessments : List Assessment) : Summary :=
  let total := assessments.length
  let implemented := assessments.countP (·.status.text == "Implemented")
  let missing := assessments.countP (·.status.text == "Missing")
  let notApplicable := assessments.countP (·.status.text == "Not Applicable")
  let applicable := implemented + missing
  { generatedAt
    totalControls := total
    implemented
    missing
    notApplicable
    applicable
    complianceRate := rate implemented applicable
    layerStatistics :=
      PyDict.tally (·.layerNumber) LayerStats.zero (fun a s => s.record a.status.text)
        assessments }

/-! ## The text report -/

/-- One line of the `LAYER STATISTICS` section. -/
structure TextLayerLine where
  layer : Option String
  implemented : ℕ
  applicable : ℕ
  rate : ℚ

/-- One entry of the `MISSING CONTROLS` section. -/
structure MissingControlLine where
  layer : Option String
  controlGroup : Option String
  control : Option String
  artifact : Option String

/-- The values `generate_text_report` writes. -/
structure TextReport where
  generated : String
  totalControls : ℕ
  implemented : ℕ
  missing : ℕ
  notApplicable : ℕ
  complianceRate : ℚ
  layers : List TextLayerLine
  missingControls : List MissingControlLine

/-- A layer's line: its implemented count over its applicable count, and that rate. -/
def textLayerLine (layerNum : Option String) (stats : LayerStats) : TextLayerLine :=
  let applicableLayer := stats.implemented + stats.missing
  ⟨layerNum, stats.implemented, applicableLayer, rate stats.implemented applicableLayer⟩

/-- `generate_text_report(assessments, summary)`; its unused `total_layer` is left out. -/
def generateTextReport (assessments : List Assessment) (summary : Summary) : TextReport where
  generated := summary.generatedAt
  totalControls := summary.totalControls
  implemented := summary.implemented
  missing := summary.missing
  notApplicable := summary.notApplicable
  complianceRate := summary.complianceRate
  layers := summary.layerStatistics.entries.map fun (k, s) => textLayerLine k s
  missingControls := (assessments.filter (·.status.text == "Missing")).map fun c =>
    ⟨c.layerNumber, c.controlGroup, c.control, c.artifact⟩

/-- `main()` of the report script after loading the checklist: assess every row, summarise,
render. -/
def complianceReport (F : Snapshot) (generatedAt : String) (checklist : List Row) :
    List Assessment × Summary × TextReport :=
  let assessments := checklist.map (assessControl F)
  let summary := generateSummary generatedAt assessments
  (assessments, summary, generateTextReport assessments summary)

namespace ComplianceReport

/-- `main()` of the report script, given what `security_layers_checklist.csv` holds (`none`
when there is no such file): it exits with the printed line when the file is missing or
cannot be read, and otherwise assesses, summarises and renders. -/
def main (F : Snapshot) (now : String) (contents : Option String) :
    Except String (List Assessment × Summary × TextReport) :=
  if contents.isNone then
    .error ("Error: Checklist file \x27" ++ checklistFile ++ "\x27 not found.")
  else complianceReport F now <$> loadChecklist checklistFile contents

/-- The existence check of `main` prints what `load_checklist` would print: `main` reports on
the loaded checklist. -/
lemma main_eq (F : Snapshot) (now : String) (contents : Option String) :
    main F now contents = complianceReport F now <$> loadChecklist checklistFile contents := by
  rcases contents with _ | text <;> rfl

lemma main_eq_ok {F : Snapshot} {now : String} {contents : Option String}
    {R : List Assessment × Summary × TextReport} (h : main F now contents = .ok R) :
    ∃ checklist, loadChecklist checklistFile contents = .ok checklist ∧
      R = complianceReport F now checklist := by
  obtain ⟨checklist, hc, rfl⟩ := Except.map_eq_ok.1 ((main_eq F now contents).symm.trans h)
  exact ⟨checklist, hc, rfl⟩

end ComplianceReport

/-! ## The counts -/

section Counts

variable (A : List Assessment)

lemma countP_status_text (s : Status) :
    A.countP (·.status.text == s.text) = A.countP (·.status = s) :=
  List.countP_congr fun a _ => by simp [Status.text_inj]

/-- The three statuses partition the assessments. -/
lemma countP_status_add (A : List Assessment) :
    A.countP (·.status = .implemented) + A.countP (·.status = .missing) +
      A.countP (·.status = .notApplicable) = A.length := by
  induction A with
  | nil => rfl
  | cons a A ih =>
    simp only [List.countP_cons, List.length_cons]
    cases a.status <;> simp <;> omega

@[simp] lemma LayerStats.record_implemented (st : Status) (s : LayerStats) :
    (s.record st.text).implemented = s.implemented + if st = .implemented then 1 else 0 := by
  cases st <;> rfl

@[simp] lemma LayerStats.record_missing (st : Status) (s : LayerStats) :
    (s.record st.text).missing = s.missing + if st = .missing then 1 else 0 := by
  cases st <;> rfl

@[simp] lemma LayerStats.record_notApplicable (st : Status) (s : LayerStats) :
    (s.record st.text).notApplicable = s.notApplicable + if st = .notApplicable then 1 else 0 := by
  cases st <;> rfl

/-- The per-layer update, folded over a list of assessments, counts them by status. -/
lemma foldl_record (s : LayerStats) :
    A.foldl (fun v a => v.record a.status.text) s =
      ⟨s.implemented + A.countP (·.status = .implemented),
        s.missing + A.countP (·.status = .missing),
        s.notApplicable + A.countP (·.status = .notApplicable)⟩ := by
  induction A generalizing s with
  | nil => rfl
  | cons a A ih =>
    rw [List.foldl_cons, ih]
    simp only [LayerStats.record_implemented, LayerStats.record_missing,
      LayerStats.record_notApplicable, List.countP_cons, decide_eq_true_eq]
    congr 1 <;> omega

variable (now : String)

lemma generateSummary_implemented :
    (generateSummary now A).implemented = A.countP (·.status = .implemented) :=
  countP_status_text A .implemented

lemma generateSummary_missing :
    (generateSummary now A).missing = A.countP (·.status = .missing) :=
  countP_status_text A .missing

lemma generateSummary_notApplicable :
    (generateSummary now A).notApplicable = A.countP (·.status = .notApplicable) :=
  countP_status_text A .notApplicable

lemma complianceRate_generateSummary :
    (generateSummary now A).complianceRate =
      rate (generateSummary now A).implemented (generateSummary now A).applicable := rfl

lemma implemented_le_applicable :
    (generateSummary now A).implemented ≤ (generateSummary now A).applicable :=
  Nat.le_add_right _ _

lemma applicable_add_notApplicable :
    (generateSummary now A).applicable + (generateSummary now A).notApplicable =
      (generateSummary now A).totalControls := by
  show (generateSummary now A).implemented + (generateSummary now A).missing + _ = A.length
  rw [generateSummary_implemented, generateSummary_missing, generateSummary_notApplicable]
  exact countP_status_add A

lemma keys_generateSummary :
    (generateSummary now A).layerStatistics.keys = (A.map (·.layerNumber)).eraseDups :=
  PyDict.keys_tally (fun a : Assessment => a.layerNumber) _ _ A

/-- The record of layer `k` counts that layer's assessments by status. -/
lemma get?_generateSummary {k : Option String} (hk : k ∈ A.map (·.layerNumber)) :
    (generateSummary now A).layerStatistics.get? k =
      some ⟨A.countP (fun a => a.layerNumber = k ∧ a.status = .implemented),
        A.countP (fun a => a.layerNumber = k ∧ a.status = .missing),
        A.countP (fun a => a.layerNumber = k ∧ a.status = .notApplicable)⟩ := by
  simp only [generateSummary, PyDict.get?_tally, hk, if_true, foldl_record, List.countP_filter]
  simp [LayerStats.zero, and_comm]

lemma mem_keys_generateSummary {k : Option String} :
    k ∈ (generateSummary now A).layerStatistics.keys ↔ k ∈ A.map (·.layerNumber) :=
  PyDict.mem_keys_tally _ _ _ A k

lemma sum_implemented_generateSummary :
    ((generateSummary now A).layerStatistics.entries.map (·.2.implemented)).sum =
      (generateSummary now A).implemented :=
  (PyDict.sum_tally _ _ _ LayerStats.implemented (·.status = .implemented) rfl
    (fun _ _ => by simp) A).trans
    (generateSummary_implemented A now).symm

lemma sum_missing_generateSummary :
    ((generateSummary now A).layerStatistics.entries.map (·.2.missing)).sum =
      (generateSummary now A).missing :=
  (PyDict.sum_tally _ _ _ LayerStats.missing (·.status = .missing) rfl
    (fun _ _ => by simp) A).trans
    (generateSummary_missing A now).symm

lemma sum_notApplicable_generateSummary :
    ((generateSummary now A).layerStatistics.entries.map (·.2.notApplicable)).sum =
      (generateSummary now A).notApplicable :=
  (PyDict.sum_tally _ _ _ LayerStats.notApplicable (·.status = .notApplicable) rfl
    (fun _ _ => by simp) A).trans
    (generateSummary_notApplicable A now).symm

end Counts

/-! ## The aggregation contract -/

lemma artifactStatus_applicable (F : Snapshot) (a : Option String) :
    ((if artifactStatus F a = .implemented then 1 else 0) +
      if artifactStatus F a = .missing then 1 else 0) = if truthy a then 1 else 0 := by
  unfold artifactStatus
  cases truthy a
  · rfl
  · by_cases hc : checkArtifactExists F (a.getD "") <;> simp only [hc] <;> rfl

/-- The applicable controls are exactly the rows with an artifact. -/
lemma countP_implemented_add_missing (F : Snapshot) (checklist : List Row) :
    checklist.countP (fun r => (assessControl F r).status = .implemented) +
        checklist.countP (fun r => (assessControl F r).status = .missing) =
      checklist.countP (fun r => truthy (r.get artifactColumn (some ""))) := by
  induction checklist with
  | nil => rfl
  | cons r rs ih =>
    simp only [List.countP_cons, status_assessControl, decide_eq_true_eq] at ih ⊢
    have := artifactStatus_applicable F (r.get artifactColumn (some ""))
    omega

/-- The applicable count does not depend on the filesystem: it is the number of rows with an
artifact. -/
lemma applicable_generateSummary (F : Snapshot) (now : String) (checklist : List Row) :
    (generateSummary now (checklist.map (assessControl F))).applicable =
      checklist.countP (fun r => truthy (r.get artifactColumn (some ""))) := by
  show (generateSummary now _).implemented + (generateSummary now _).missing = _
  rw [generateSummary_implemented, generateSummary_missing, List.countP_map, List.countP_map]
  exact countP_implemented_add_missing F checklist

/-- **The report's aggregation.** For every checklist and snapshot: each control's status
follows its artifact cell; every row lands in exactly one global counter; the layers are the
distinct `Layer #` cells in order of first occurrence; each layer counter counts the rows of
that layer and status, so each counter sums over the layers to the global one. -/
theorem generateSummary_spec (F : Snapshot) (now : String) (checklist : List Row) :
    (∀ r ∈ checklist,
      ((assessControl F r).status = .notApplicable ↔
        truthy (r.get artifactColumn (some "")) = false) ∧
      ((assessControl F r).status = .implemented ↔
        truthy (r.get artifactColumn (some "")) ∧
          checkArtifactExists F ((r.get artifactColumn (some "")).getD "")) ∧
      ((assessControl F r).status = .missing ↔
        truthy (r.get artifactColumn (some "")) ∧
          checkArtifactExists F ((r.get artifactColumn (some "")).getD "") = false)) ∧
    let S := generateSummary now (checklist.map (assessControl F))
    S.totalControls = checklist.length ∧
    S.implemented = checklist.countP (fun r => (assessControl F r).status = .implemented) ∧
    S.missing = checklist.countP (fun r => (assessControl F r).status = .missing) ∧
    S.notApplicable = checklist.countP (fun r => (assessControl F r).status = .notApplicable) ∧
    S.implemented + S.missing + S.notApplicable = S.totalControls ∧
    S.applicable = checklist.countP (fun r => truthy (r.get artifactColumn (some ""))) ∧
    S.layerStatistics.keys = (checklist.map (·.get "Layer #" (some ""))).eraseDups ∧
    (∀ k ∈ S.layerStatistics.keys, S.layerStatistics.get? k = some
      ⟨checklist.countP fun r =>
          r.get "Layer #" (some "") = k ∧ (assessControl F r).status = .implemented,
        checklist.countP fun r =>
          r.get "Layer #" (some "") = k ∧ (assessControl F r).status = .missing,
        checklist.countP fun r =>
          r.get "Layer #" (some "") = k ∧ (assessControl F r).status = .notApplicable⟩) ∧
    (S.layerStatistics.entries.map (·.2.implemented)).sum = S.implemented ∧
    (S.layerStatistics.entries.map (·.2.missing)).sum = S.missing ∧
    (S.layerStatistics.entries.map (·.2.notApplicable)).sum = S.notApplicable := by
  set A := checklist.map (assessControl F)
  have hkeys : A.map (·.layerNumber) = checklist.map (·.get "Layer #" (some "")) := by
    simp [A, Function.comp_def]
  refine ⟨fun r _ => ?_, List.length_map _ _, ?_, ?_, ?_, ?_, ?_, ?_, fun k hk => ?_,
    sum_implemented_generateSummary A now, sum_missing_generateSummary A now,
    sum_notApplicable_generateSummary A now⟩
  · rw [status_assessControl]
    exact ⟨artifactStatus_eq_notApplicable_iff .., artifactStatus_eq_implemented_iff ..,
      artifactStatus_eq_missing_iff ..⟩
  · rw [generateSummary_implemented, List.countP_map]; rfl
  · rw [generateSummary_missing, List.countP_map]; rfl
  · rw [generateSummary_notApplicable, List.countP_map]; rfl
  · rw [generateSummary_implemented, generateSummary_missing, generateSummary_notApplicable]
    exact countP_status_add A
  · exact applicable_generateSummary F now checklist
  · rw [keys_generateSummary, hkeys]
  · rw [get?_generateSummary A now (hkeys ▸ (mem_keys_generateSummary A now).1 hk)]
    simp [A, List.countP_map, Function.comp_def]

end SecurityCompliance
