import SecurityCompliance.Dashboard.Html
import SecurityCompliance.Report.Json

/-!
# `security-dashboard.json` (`generate_dashboard`)

After the HTML report, `generate_dashboard` writes
`{"timestamp": …, "audit_metrics": audit_metrics, "compliance_metrics": compliance_metrics}`
with `json.dump(dashboard_data, f, indent=2)`.  The `timestamp` is a second `datetime.now()`,
taken after the audit.  A group of `audit_metrics` is the counts read from a tool's report,
in the order the script sets them, or `{"error": message}`; `dependencies` and `secrets` stay
`{}`.  The compliance rate is the number `calculate_compliance_metrics` computed, the float
`implemented_controls / total_controls * 100` or the `int` `0`.
-/

namespace SecurityCompliance

namespace SecurityDashboard

open PyFloat

/-- One group of `metrics`: the counts as `fields` writes them, or `{"error": message}`. -/
def ToolMetrics.toPyValue {α : Type} (fields : α → List (Option String × PyValue)) :
    ToolMetrics α → PyValue
  | .counts c => .dict (fields c)
  | .error message => .dict [(some "error", .str message)]

/-- `metrics["vulnerabilities"]["count"]`, then `["critical"]`. -/
def VulnerabilityCounts.fields (c : VulnerabilityCounts) : List (Option String × PyValue) :=
  [(some "count", pyInt c.count), (some "critical", pyInt c.critical)]

/-- `metrics["compliance"]["license_issues"]`, then `["ban_issues"]`. -/
def ComplianceCounts.fields (c : ComplianceCounts) : List (Option String × PyValue) :=
  [(some "license_issues", pyInt c.licenseIssues), (some "ban_issues", pyInt c.banIssues)]

/-- The dict `run_security_audit` returns. -/
def AuditMetrics.toPyValue (a : AuditMetrics) : PyValue :=
  .dict [(some "timestamp", .str a.timestamp),
    (some "vulnerabilities", a.vulnerabilities.toPyValue VulnerabilityCounts.fields),
    (some "compliance", a.compliance.toPyValue ComplianceCounts.fields),
    (some "dependencies", .dict []),
    (some "secrets", .dict [])]

/-- `{"total": …, "implemented": …, "missing": …}`. -/
def LayerMetrics.toPyValue (m : LayerMetrics) : PyValue :=
  .dict [(some "total", pyInt m.total), (some "implemented", pyInt m.implemented),
    (some "missing", pyInt m.missing)]

/-- The dict `calculate_compliance_metrics` returns. -/
def ComplianceMetrics.toPyValue (m : ComplianceMetrics) : PyValue :=
  .dict [(some "total_controls", pyInt m.totalControls),
    (some "implemented_controls", pyInt m.implementedControls),
    (some "missing_controls", pyInt m.missingControls),
    (some "compliance_rate", pyRateValue m.implementedControls m.totalControls),
    (some "layer_metrics", m.layerMetrics.toPyValue LayerMetrics.toPyValue)]

/-- `dashboard_data`, with `timestamp` its own `datetime.now().isoformat()`. -/
def DashboardData.toPyValue (timestamp : String) (d : DashboardData) : PyValue :=
  .dict [(some "timestamp", .str timestamp),
    (some "audit_metrics", d.auditMetrics.toPyValue),
    (some "compliance_metrics", d.complianceMetrics.toPyValue)]

/-- What `json.dump(dashboard_data, f, indent=2)` writes to `security-dashboard.json`. -/
def dashboardJson (timestamp : String) (d : DashboardData) : String :=
  dumps (d.toPyValue timestamp)

end SecurityDashboard

end SecurityCompliance
