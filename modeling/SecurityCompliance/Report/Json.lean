import SecurityCompliance.Report.Text
import SecurityCompliance.Python.JsonDump

/-!
# The JSON report (`generate_json_report`)

`generate_json_report(assessments, summary)` returns `json.dumps(report, indent=2)` of
`{"summary": summary, "assessments": assessments}`.  This module writes the two dicts as the
`PyValue`s they are in the script: every count an `int`, every cell of the checklist a `str`
or `None`, the status its text, and the compliance rate the number `generate_summary` computed,
the float `implemented / applicable * 100` or the `int` `0` (`pyRate`).  `layer_statistics` is
the `dict` of the summary, keyed by the `Layer #` cells, which may be `None`.
-/

namespace SecurityCompliance

open PyFloat

/-- A count, a Python `int`. -/
def pyInt (n : ℕ) : PyValue := .num (.int n) trivial

/-- A cell that may be `None`. -/
def pyOptStr : Option String → PyValue
  | some s => .str s
  | none => .none

/-- A `dict` keyed by cells that may be `None`, each record written by `f`. -/
def PyDict.toPyValue {V : Type} (f : V → PyValue) (d : PyDict (Option String) V) : PyValue :=
  .dict (d.entries.map fun e => (e.1, f e.2))

lemma isFinite_pyRate (x y : ℕ) : (pyRate x y).IsFinite := by
  unfold pyRate
  split_ifs
  exacts [isBinary64_roundBinary64 _, trivial]

/-- The number `(x / y * 100) if y > 0 else 0`, as the JSON writes it. -/
def pyRateValue (x y : ℕ) : PyValue := .num (pyRate x y) (isFinite_pyRate x y)

/-- `{"implemented": …, "missing": …, "not_applicable": …}`. -/
def LayerStats.toPyValue (s : LayerStats) : PyValue :=
  .dict [(some "implemented", pyInt s.implemented), (some "missing", pyInt s.missing),
    (some "not_applicable", pyInt s.notApplicable)]

/-- The dict `generate_summary` returns. -/
def Summary.toPyValue (s : Summary) : PyValue :=
  .dict [(some "generated_at", .str s.generatedAt),
    (some "total_controls", pyInt s.totalControls),
    (some "implemented", pyInt s.implemented),
    (some "missing", pyInt s.missing),
    (some "not_applicable", pyInt s.notApplicable),
    (some "applicable", pyInt s.applicable),
    (some "compliance_rate", pyRateValue s.implemented s.applicable),
    (some "layer_statistics", s.layerStatistics.toPyValue LayerStats.toPyValue)]

/-- The dict `assess_control` returns. -/
def Assessment.toPyValue (a : Assessment) : PyValue :=
  .dict [(some "layer_number", pyOptStr a.layerNumber),
    (some "layer_name", pyOptStr a.layerName),
    (some "control_group", pyOptStr a.controlGroup),
    (some "control", pyOptStr a.control),
    (some "status", .str a.status.text),
    (some "reason", .str a.reason),
    (some "artifact", pyOptStr a.artifact),
    (some "component", pyOptStr a.component),
    (some "test_category", pyOptStr a.testCategory),
    (some "metric_kpi", pyOptStr a.metricKpi),
    (some "evidence", pyOptStr a.evidence)]

/-- The dict `report` of `generate_json_report`. -/
def jsonReport (assessments : List Assessment) (summary : Summary) : PyValue :=
  .dict [(some "summary", summary.toPyValue),
    (some "assessments", .list (assessments.map Assessment.toPyValue))]

/-- `generate_json_report(assessments, summary)`. -/
def generateJsonReport (assessments : List Assessment) (summary : Summary) : String :=
  dumps (jsonReport assessments summary)

end SecurityCompliance
