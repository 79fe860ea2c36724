import SecurityCompliance.Dashboard.Audit
import SecurityCompliance.Report.Text

/-!
# The dashboard page as text (`generate_html_report`)

`htmlLayerRow` (`Dashboard/Metrics.lean`) is the values of a row of the layer table, with the
exact rate.  The script computes the row's rate as a float (`PyFloat.pyRate`), takes the cell's
CSS class from that float (`layerStatusClass`) and prints it with `:.1f`.  This module writes
the page as the script does: the f-string head with the three metric cards, one block per layer
in the order of `layer_metrics`, and the closing block.  `generate_dashboard` then prints a
summary (`generateDashboardOutput`).

The closing block is a plain string, not an f-string, so its `Security Metrics` section holds
the placeholders `{audit_metrics[...].get(...)}` as text: the page shows the `cargo audit`
counts only in its `Vulnerabilities` card, and the `cargo deny` counts nowhere.
-/

namespace SecurityCompliance

namespace SecurityDashboard

open PyFloat

/-- `d.get(key, default)` on one group of the audit metrics: the count read from the tool's
report, or `default` on the `{"error": ...}` dict of a tool that did not report. -/
def ToolMetrics.getText {α : Type} (field : α → ℕ) (default : String) :
    ToolMetrics α → String
  | .counts c => toString (field c)
  | .error _ => default

/-- `status_class` of a layer, from its rate as Python computes it. -/
def layerStatusClass (m : LayerMetrics) : String :=
  statusClass (pyRate m.implemented m.total).toRat

/-- The f-string of `generate_html_report` up to the table body, at the time `generated`. -/
def htmlHead (generated : String) (audit : AuditMetrics) (metrics : ComplianceMetrics) :
    String :=
  "\n" ++ "\n".intercalate
    ["<!DOCTYPE html>",
    "<html>",
    "<head>",
    "    <title>Security Dashboard</title>",
    "    <style>",
    "        body \x7b font-family: Arial, sans-serif; margin: 20px; \x7d",
    "        .header \x7b background-color: #f0f0f0; padding: 20px; border-radius: 5px; \x7d",
    "        .metrics \x7b display: flex; flex-wrap: wrap; gap: 20px; margin: 20px 0; \x7d",
    "        .metric-card \x7b background-color: #f9f9f9; padding: 15px; border-radius: 5px; " ++
      "min-width: 200px; \x7d",
    "        .metric-value \x7b font-size: 24px; font-weight: bold; \x7d",
    "        .chart-container \x7b margin: 20px 0; \x7d",
    "        .layer-table \x7b width: 100%; border-collapse: collapse; margin: 20px 0; \x7d",
    "        .layer-table th, .layer-table td \x7b border: 1px solid #ddd; padding: 8px; " ++
      "text-align: left; \x7d",
    "        .layer-table th \x7b background-color: #f2f2f2; \x7d",
    "        .compliant \x7b color: green; \x7d",
    "        .non-compliant \x7b color: red; \x7d",
    "        .warning \x7b color: orange; \x7d",
    "    </style>",
    "</head>",
    "<body>",
    "    <div class=\"header\">",
    "        <h1>Security Dashboard</h1>",
    "        <p>Generated: " ++ generated ++ "</p>",
    "    </div>",
    "    ",
    "    <div class=\"metrics\">",
    "        <div class=\"metric-card\">",
    "            <h3>Overall Compliance</h3>",
    "            <div class=\"metric-value\">" ++
      (pyRate metrics.implementedControls metrics.totalControls).formatFixed 1 ++ "%</div>",
    "            <p>" ++ toString metrics.implementedControls ++ "/" ++
      toString metrics.totalControls ++ " controls implemented</p>",
    "        </div>",
    "        ",
    "        <div class=\"metric-card\">",
    "            <h3>Vulnerabilities</h3>",
    "            <div class=\"metric-value\">" ++
      audit.vulnerabilities.getText VulnerabilityCounts.count "N/A" ++ "</div>",
    "            <p>" ++ audit.vulnerabilities.getText VulnerabilityCounts.critical "0" ++
      " critical</p>",
    "        </div>",
    "        ",
    "        <div class=\"metric-card\">",
    "            <h3>Missing Controls</h3>",
    "            <div class=\"metric-value\">" ++ toString metrics.missingControls ++ "</div>",
    "            <p>controls need implementation</p>",
    "        </div>",
    "    </div>",
    "    ",
    "    <div class=\"chart-container\">",
    "        <h2>Compliance by Security Layer</h2>",
    "        <table class=\"layer-table\">",
    "            <thead>",
    "                <tr>",
    "                    <th>Layer #</th>",
    "                    <th>Layer Name</th>",
    "                    <th>Compliance Rate</th>",
    "                    <th>Implemented</th>",
    "                    <th>Total</th>",
    "                </tr>",
    "            </thead>",
    "            <tbody>"] ++ "\n"

/-- The block the layer loop appends for one layer. -/
def layerRowHtml (layerNum : Option String) (m : LayerMetrics) : String :=
  "\n" ++ "\n".intercalate
    ["                <tr>",
    "                    <td>" ++ pyStrOpt layerNum ++ "</td>",
    "                    <td>" ++ getLayerName layerNum ++ "</td>",
    "                    <td class=\"" ++ layerStatusClass m ++ "\">" ++
      (pyRate m.implemented m.total).formatFixed 1 ++ "%</td>",
    "                    <td>" ++ toString m.implemented ++ "</td>",
    "                    <td>" ++ toString m.total ++ "</td>",
    "                </tr>"] ++ "\n"

/-- The closing block, a plain string: its braces are text. -/
def htmlTail : String :=
  "\n" ++ "\n".intercalate
    ["            </tbody>",
    "        </table>",
    "    </div>",
    "    ",
    "    <div class=\"chart-container\">",
    "        <h2>Security Metrics</h2>",
    "        <h3>Vulnerability Assessment</h3>",
    "        <p>Critical Vulnerabilities: \x7baudit_metrics[\x27vulnerabilities\x27]" ++
      ".get(\x27critical\x27, 0)\x7d</p>",
    "        <p>Total Vulnerabilities: \x7baudit_metrics[\x27vulnerabilities\x27]" ++
      ".get(\x27count\x27, \x27N/A\x27)\x7d</p>",
    "        ",
    "        <h3>Compliance Issues</h3>",
    "        <p>License Issues: \x7baudit_metrics[\x27compliance\x27]" ++
      ".get(\x27license_issues\x27, \x27N/A\x27)\x7d</p>",
    "        <p>Ban Issues: \x7baudit_metrics[\x27compliance\x27]" ++
      ".get(\x27ban_issues\x27, \x27N/A\x27)\x7d</p>",
    "    </div>",
    "</body>",
    "</html>"] ++ "\n"

/-- `generate_html_report(audit_metrics, compliance_metrics)`, with `generated` the time
`datetime.now().strftime(...)` prints. -/
def generateHtmlReport (generated : String) (audit : AuditMetrics)
    (metrics : ComplianceMetrics) : String :=
  htmlHead generated audit metrics ++
    String.join (metrics.layerMetrics.entries.map fun e => layerRowHtml e.1 e.2) ++ htmlTail

/-- The lines `generate_dashboard` prints, around writing the two files. -/
def generateDashboardOutput (audit : AuditMetrics) (metrics : ComplianceMetrics) :
    List String :=
  ["Generating security dashboard...",
    "Security dashboard generated successfully!",
    "- security-dashboard.html",
    "- security-dashboard.json",
    "\nDashboard Summary:",
    "Compliance Rate: " ++
      (pyRate metrics.implementedControls metrics.totalControls).formatFixed 1 ++ "%",
    "Implemented Controls: " ++ toString metrics.implementedControls ++ "/" ++
      toString metrics.totalControls,
    "Missing Controls: " ++ toString metrics.missingControls,
    "Critical Vulnerabilities: " ++
      audit.vulnerabilities.getText VulnerabilityCounts.critical "0"]

end SecurityDashboard

end SecurityCompliance
