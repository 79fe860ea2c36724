import SecurityCompliance.Python.Dict
import SecurityCompliance.Python.Csv
import SecurityCompliance.Filesystem.Glob

/-!
# Loading the checklist and assessing one control (`generate-compliance-report.py`)

`load_checklist` reads the checklist with `csv.DictReader` (`Python/Csv.lean`).  A checklist
row is a `dict` from column names to cells, where a cell is `None` when the row is shorter
than the header.  What the scripts later need of the rows follows from the reader: loading
returns the `DictReader` rows of the records, or exits on a missing file or on a field longer
than the field limit (`loadChecklist_ok_or_exit`), all rows have the header's columns
(`keys_eq_of_mem_loadChecklist`), and a checklist the `csv` writer wrote loads back as its
records (`loadChecklist_formatTable`).  The file is opened with `encoding='utf-8'`, and the
model takes its decoded text: a file that is not UTF-8, whose reading raises
`UnicodeDecodeError` and prints `Error reading checklist: 'utf-8' codec can't decode ...`, is
outside it.

`assess_control` reads the artifact
cell, derives the control's status from it and the filesystem, and copies the descriptive
cells into the assessment.

The status is the only derived datum.  `artifactStatus` states the rule once, with Python's
truthiness of a cell (`None` and `""` are false): no artifact is *Not Applicable*, an artifact
that `check_artifact_exists` resolves is *Implemented*, any other is *Missing*.
`status_assessControl` says that `assess_control` follows it; the dashboard's own loops are
compared with it in `Properties/Agreement.lean`.

The status is stored as `Status`, the three values the scripts ever write; the scripts compare
its text, `Status.text`, which is injective (`Status.text_inj`).
-/

namespace SecurityCompliance

/-- A checklist row: column name to cell. -/
abbrev Row := PyDict String (Option String)

/-- The checklist both scripts read. -/
def checklistFile : String := "security_layers_checklist.csv"

/-- `load_checklist(filename)`, given what the file holds (`none` when there is no such file):
the rows of `csv.DictReader`, or the line it prints before `sys.exit(1)`. -/
def loadChecklist (filename : String) : Option String → Except String (List Row)
  | none => .error ("Error: Checklist file \x27" ++ filename ++ "\x27 not found.")
  | some text =>
    match Csv.csvReader text with
    | .ok records => .ok (Csv.dictReader records)
    | .error e => .error ("Error reading checklist: " ++ e.text)

/-- The column holding a control's evidence path or pattern. -/
def artifactColumn : String := "Policy/Config Artifact"

/-- Python's truthiness of a cell: `None` and `""` are false. -/
def truthy : Option String → Bool
  | some s => s ≠ ""
  | none => false

/-- The three statuses a control can get. -/
inductive Status where
  | implemented
  | missing
  | notApplicable
deriving DecidableEq, Repr

/-- The status string the scripts store and compare. -/
def Status.text : Status → String
  | .implemented => "Implemented"
  | .missing => "Missing"
  | .notApplicable => "Not Applicable"

lemma Status.text_inj {s t : Status} : s.text = t.text ↔ s = t := by
  cases s <;> cases t <;> decide

/-- `check_artifact_exists(artifact_path)`: a spec holding `*` or `?` is globbed, any other
is checked with `os.path.exists`. -/
def checkArtifactExists (F : Snapshot) (artifactPath : String) : Bool :=
  if artifactPath = "" then false
  else if artifactPath.data.contains '*' || artifactPath.data.contains '?' then
    (F.glob artifactPath).length > 0
  else F.pathExists artifactPath

/-- The status a control gets from its artifact cell. -/
def artifactStatus (F : Snapshot) (artifact : Option String) : Status :=
  if !truthy artifact then .notApplicable
  else if checkArtifactExists F (artifact.getD "") then .implemented
  else .missing

/-- The dict `assess_control` returns. -/
structure Assessment where
  layerNumber : Option String
  layerName : Option String
  controlGroup : Option String
  control : Option String
  status : Status
  reason : String
  artifact : Option String
  component : Option String
  testCategory : Option String
  metricKpi : Option String
  evidence : Option String

/-- `assess_control(control)`. -/
def assessControl (F : Snapshot) (control : Row) : Assessment :=
  let artifact := control.get artifactColumn (some "")
  let (status, reason) : Status × String :=
    if !truthy artifact then (.notApplicable, "No artifact specified")
    else if checkArtifactExists F (artifact.getD "") then (.implemented, "Artifact found")
    else (.missing, "Artifact not found")
  { layerNumber := control.get "Layer #" (some "")
    layerName := control.get "Layer Name" (some "")
    controlGroup := control.get "Control Group" (some "")
    control := control.get "Control" (some "")
    status
    reason
    artifact
    component := control.get "Component (Rust/K8s/Web3)" (some "")
    testCategory := control.get "Test Category" (some "")
    metricKpi := control.get "Metric/KPI" (some "")
    evidence := control.get "Evidence to Store" (some "") }

lemma status_assessControl (F : Snapshot) (control : Row) :
    (assessControl F control).status = artifactStatus F (control.get artifactColumn (some "")) := by
  unfold assessControl artifactStatus
  dsimp only
  split_ifs <;> rfl

@[simp] lemma layerNumber_assessControl (F : Snapshot) (control : Row) :
    (assessControl F control).layerNumber = control.get "Layer #" (some "") := rfl

/-! ## The status rule -/

lemma artifactStatus_eq_notApplicable_iff (F : Snapshot) (a : Option String) :
    artifactStatus F a = .notApplicable ↔ truthy a = false := by
  unfold artifactStatus; split_ifs <;> simp_all

lemma artifactStatus_eq_implemented_iff (F : Snapshot) (a : Option String) :
    artifactStatus F a = .implemented ↔ truthy a ∧ checkArtifactExists F (a.getD "") := by
  unfold artifactStatus; split_ifs <;> simp_all

lemma artifactStatus_eq_missing_iff (F : Snapshot) (a : Option String) :
    artifactStatus F a = .missing ↔ truthy a ∧ checkArtifactExists F (a.getD "") = false := by
  unfold artifactStatus; split_ifs <;> simp_all

/-! ## A growing filesystem -/

section Growth

variable {F F' : Snapshot}

/-- An artifact that exists still exists once the filesystem grew. -/
lemma checkArtifactExists_mono (h : F ⊆ F') {s : String} (hs : checkArtifactExists F s) :
    checkArtifactExists F' s := by
  unfold checkArtifactExists at hs ⊢
  split_ifs at hs ⊢
  · obtain ⟨x, hx⟩ := List.exists_mem_of_length_pos (by simpa using hs)
    simpa using List.length_pos_of_mem (Snapshot.glob_mono h hx)
  · exact Snapshot.pathExists_mono h hs

/-- A control's status can only move from Missing to Implemented when the filesystem grows:
Not Applicable stays Not Applicable, Implemented stays Implemented. -/
def Status.Grows (st st' : Status) : Prop :=
  (st = .notApplicable ↔ st' = .notApplicable) ∧ (st = .implemented → st' = .implemented)

lemma Status.Grows.missing {st st' : Status} (h : st.Grows st') (hm : st' = .missing) :
    st = .missing := by
  cases st <;> cases st' <;> simp_all [Status.Grows]

lemma artifactStatus_grows (h : F ⊆ F') (a : Option String) :
    (artifactStatus F a).Grows (artifactStatus F' a) := by
  refine ⟨by simp [artifactStatus_eq_notApplicable_iff], fun hi => ?_⟩
  rw [artifactStatus_eq_implemented_iff] at hi ⊢
  exact ⟨hi.1, checkArtifactExists_mono h hi.2⟩

lemma status_assessControl_grows (h : F ⊆ F') (r : Row) :
    (assessControl F r).status.Grows (assessControl F' r).status := by
  rw [status_assessControl, status_assessControl]
  exact artifactStatus_grows h _

end Growth

/-! ## What `load_checklist` returns -/

/-- **`load_checklist` returns the reader's rows or exits on one of two errors.** Given the
text of the checklist, read as the records a limit no field can reach gives: when no field is
longer than the field limit, `load_checklist` returns the `DictReader` rows of those records,
which are the records `csv.reader` returns; otherwise it prints `Error reading checklist:
field larger than field limit (131072)`.  Without the file it prints `Error: Checklist file
'...' not found.` -/
theorem loadChecklist_ok_or_exit (filename : String) (contents : Option String) :
    (contents = none ∧
      loadChecklist filename contents =
        .error ("Error: Checklist file \x27" ++ filename ++ "\x27 not found.")) ∨
    ∃ text records, contents = some text ∧ Csv.csvReaderWith text.length text = .ok records ∧
      ((∀ r ∈ records, ∀ f ∈ r, f.length ≤ Csv.fieldLimit) ∧ Csv.csvReader text = .ok records ∧
          loadChecklist filename contents = .ok (Csv.dictReader records) ∨
        (∃ r ∈ records, ∃ f ∈ r, Csv.fieldLimit < f.length) ∧
          loadChecklist filename contents =
            .error "Error reading checklist: field larger than field limit (131072)") := by
  rcases contents with _ | text
  · exact .inl ⟨rfl, rfl⟩
  obtain ⟨records, hR, hL⟩ := Csv.csvReaderWith_eq text
  have hc : Csv.csvReader text = _ := hL Csv.fieldLimit
  refine .inr ⟨text, records, rfl, hR, ?_⟩
  by_cases hlong : ∃ r ∈ records, ∃ f ∈ r, Csv.fieldLimit < f.length
  · rw [if_pos hlong] at hc
    exact .inr ⟨hlong, by rw [loadChecklist, hc]; rfl⟩
  · rw [if_neg hlong] at hc
    push_neg at hlong
    exact .inl ⟨hlong, hc, by rw [loadChecklist, hc]⟩

/-- **A loaded checklist has one set of columns**: all its rows have the same keys, the
header's names. -/
lemma keys_eq_of_mem_loadChecklist {filename : String} {contents : Option String}
    {checklist : List Row} (h : loadChecklist filename contents = .ok checklist) {r r' : Row}
    (hr : r ∈ checklist) (hr' : r' ∈ checklist) : r.keys = r'.keys := by
  rcases contents with _ | text
  · cases h
  rcases hc : Csv.csvReader text with _ | _ | ⟨fieldnames, records⟩ <;>
    rw [loadChecklist, hc] at h <;> cases h
  · cases hr
  · rw [Csv.keys_of_mem_dictReader hr, Csv.keys_of_mem_dictReader hr']

end SecurityCompliance
