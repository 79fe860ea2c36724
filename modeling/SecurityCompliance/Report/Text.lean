import SecurityCompliance.Report.Summary
import SecurityCompliance.Python.Float

/-!
# The text report as text (`generate_text_report`)

`generateTextReport` (`Report/Summary.lean`) is the values the text report interpolates, with
exact rates.  This module writes the report out as the script does: its lines, joined by
`"\n"`.  Each rate is recomputed from its two counts as the Python float the script holds
(`PyFloat.pyRate`), and printed with `:.2f` (the headline, `complianceRateLine`) or `:.1f` (a
layer's line); a `None` cell prints as `None`.

A printed rate is the text of one integer, `fixedText prec d`, and the rates are never
negative, so `PyFloat.formatFixed_eq_fixedText` gives the digits `d` as `fixedDigits prec v`.
`Properties/Printed.lean` relates these digits to the exact rates.
-/

namespace SecurityCompliance

open PyFloat

/-- `str(v)` of a cell that may be `None`. -/
def pyStrOpt : Option String → String
  | some s => s
  | none => "None"

/-- `f"Layer {layer_num}: {stats['implemented']}/{applicable_layer} ({rate:.1f}%)"`. -/
def TextLayerLine.text (l : TextLayerLine) : String :=
  "Layer " ++ pyStrOpt l.layer ++ ": " ++ toString l.implemented ++ "/" ++
    toString l.applicable ++ " (" ++ (pyRate l.implemented l.applicable).formatFixed 1 ++ "%)"

/-- The three lines of a missing control: its layer, group and name, its artifact, a blank. -/
def MissingControlLine.lines (c : MissingControlLine) : List String :=
  ["Layer " ++ pyStrOpt c.layer ++ ": " ++ pyStrOpt c.controlGroup ++ " - " ++
      pyStrOpt c.control,
    "  Artifact: " ++ pyStrOpt c.artifact, ""]

/-- `f"Compliance Rate: {summary['compliance_rate']:.2f}%"`, the float `generate_summary`
computed. -/
def complianceRateLine (summary : Summary) : String :=
  "Compliance Rate: " ++ (pyRate summary.implemented summary.applicable).formatFixed 2 ++ "%"

/-- The lines `generate_text_report(assessments, summary)` appends to `report`. -/
def textReportLines (assessments : List Assessment) (summary : Summary) : List String :=
  let r := generateTextReport assessments summary
  ["SECURITY COMPLIANCE REPORT", String.mk (List.replicate 50 '='),
    "Generated: " ++ r.generated, "",
    "SUMMARY", String.mk (List.replicate 20 '-'),
    "Total Controls: " ++ toString r.totalControls,
    "Implemented: " ++ toString r.implemented,
    "Missing: " ++ toString r.missing,
    "Not Applicable: " ++ toString r.notApplicable,
    complianceRateLine summary, "",
    "LAYER STATISTICS", String.mk (List.replicate 20 '-')] ++
  r.layers.map TextLayerLine.text ++ [""] ++
  (if r.missingControls.isEmpty then []
   else "MISSING CONTROLS" :: String.mk (List.replicate 20 '-') ::
     r.missingControls.flatMap MissingControlLine.lines)

/-- `generate_text_report(assessments, summary)`: its lines joined by `"\n"`. -/
def generateTextReportText (assessments : List Assessment) (summary : Summary) : String :=
  "\n".intercalate (textReportLines assessments summary)

end SecurityCompliance
