import SecurityCompliance.Dashboard.Metrics
import SecurityCompliance.Python.Json

/-!
# The dashboard's security audit (`run_security_audit`)

`SecurityDashboard.run_security_audit` runs two tools, `cargo audit --json` and
`cargo deny check --format json`, each in a `try` block of the same shape. When the tool
exits 0, the block parses its standard output with `json.loads` and reads counts from it.
Otherwise it records an error marker: `"... failed"` for a non-zero exit, `"... not available"`
for a missing `cargo` or a timeout. The `except` clause names `TimeoutExpired`,
`SubprocessError` and `FileNotFoundError` only. So a `JSONDecodeError` from the parse, an
`AttributeError` from `.get` on a value that is no `dict`, and a `TypeError` from `len` or
iteration all escape the method. An exception in the first block also means the second
tool never runs. `generate_dashboard` calls the method first, so it then writes neither
report.  `main` loads the checklist first and exits when it cannot; what it computes when it
finishes is the metrics of the loaded checklist (`main_eq_ok`).

`collectToolMetrics` is the shared block, with its two markers and its reader as
parameters, and `cargoAudit` and `cargoDeny` are its two instances. One inversion lemma says
everything a block can do (`collectToolMetrics_eq_error`, `collectToolMetrics_eq_ok`).
From it:

* the method returns exactly when both blocks do, and then each group is what its own block
  returned, whatever the other tool did (`runSecurityAudit_eq_ok`);
* a returned audit group never counts more critical vulnerabilities than vulnerabilities
  (`critical_le_count_of_runSecurityAudit`);
* the outputs of an exit 0 that the audit block reads without raising are exactly the JSON
  objects whose `vulnerabilities` field is absent, a list of objects, an empty object or an
  empty string (`cargoAudit_completed_eq_ok_iff`);
* the method raises on an empty output, on a JSON array, and on the report of
  `cargo audit` itself, whose `vulnerabilities` field is an object
  (`runSecurityAudit_raises_on_tool_output`).
-/

namespace SecurityCompliance

namespace SecurityDashboard

/-- How one `subprocess.run` of a cargo subcommand ended: `cargo` missing
(`FileNotFoundError`), past its 60 s limit (`TimeoutExpired`), or finished. -/
inductive ToolRun where
  | notInstalled
  | timedOut
  | completed (returncode : ℤ) (stdout : String)
deriving DecidableEq, Repr

/-- One group of `metrics`: the counts read from a tool's report, or `{"error": message}`. -/
inductive ToolMetrics (α : Type) where
  | counts (c : α)
  | error (message : String)
deriving DecidableEq, Repr

/-- `metrics["vulnerabilities"]` read from `cargo audit`. -/
structure VulnerabilityCounts where
  count : ℕ
  critical : ℕ
deriving DecidableEq, Repr

/-- `metrics["compliance"]` read from `cargo deny`. -/
structure ComplianceCounts where
  licenseIssues : ℕ
  banIssues : ℕ
deriving DecidableEq, Repr

/-- The dict `run_security_audit` returns. -/
structure AuditMetrics where
  timestamp : String
  vulnerabilities : ToolMetrics VulnerabilityCounts
  compliance : ToolMetrics ComplianceCounts
deriving DecidableEq, Repr

/-! ## The method -/

/-- One `try` block of `run_security_audit`: parse the output of an exit 0 and `read` counts
from it, or record `failed` or `unavailable`. Nothing the parse or `read` raises is caught. -/
def collectToolMetrics {α : Type} (failed unavailable : String)
    (read : Json → Except PyException α) : ToolRun → Except PyException (ToolMetrics α)
  | .notInstalled | .timedOut => .ok (.error unavailable)
  | .completed returncode stdout =>
    if returncode = 0 then
      match loads stdout with
      | some data => .counts <$> read data
      | none => .error .jsonDecodeError
    else .ok (.error failed)

/-- `len([v for v in vulnerabilities if v.get("severity") == "critical"])`. -/
def criticalCount : List Json → Except PyException ℕ
  | [] => .ok 0
  | v :: vs => do
    let severity ← v.get (pyStr "severity") .null
    let n ← criticalCount vs
    pure (if severity.eqStr (pyStr "critical") then n + 1 else n)

/-- The counts the audit block reads from `audit_data`. -/
def readVulnerabilities (auditData : Json) : Except PyException VulnerabilityCounts := do
  let count ← (← auditData.get (pyStr "vulnerabilities") (.array [])).len
  let critical ← criticalCount (← (← auditData.get (pyStr "vulnerabilities") (.array [])).iter)
  pure ⟨count, critical⟩

/-- The counts the deny block reads from `deny_data`. -/
def readComplianceIssues (denyData : Json) : Except PyException ComplianceCounts := do
  let licenseIssues ← (← denyData.get (pyStr "licenses") (.array [])).len
  let banIssues ← (← denyData.get (pyStr "bans") (.array [])).len
  pure ⟨licenseIssues, banIssues⟩

/-- The block after `# Run cargo audit if available`. -/
def cargoAudit : ToolRun → Except PyException (ToolMetrics VulnerabilityCounts) :=
  collectToolMetrics "Cargo audit failed" "Cargo audit not available" readVulnerabilities

/-- The block after `# Run cargo deny checks`. -/
def cargoDeny : ToolRun → Except PyException (ToolMetrics ComplianceCounts) :=
  collectToolMetrics "Cargo deny failed" "Cargo deny not available" readComplianceIssues

/-- `run_security_audit`, at time `now`, given how the two tools would end. -/
def runSecurityAudit (now : String) (auditRun denyRun : ToolRun) :
    Except PyException AuditMetrics := do
  let vulnerabilities ← cargoAudit auditRun
  let compliance ← cargoDeny denyRun
  pure ⟨now, vulnerabilities, compliance⟩

/-- What `generate_dashboard` writes to `security-dashboard.json`, besides its timestamp. -/
structure DashboardData where
  auditMetrics : AuditMetrics
  complianceMetrics : ComplianceMetrics

/-- `generate_dashboard`: the audit first, then the checklist metrics, then both reports. -/
def generateDashboard (F : Snapshot) (now : String) (checklist : List Row)
    (auditRun denyRun : ToolRun) : Except PyException DashboardData := do
  let auditMetrics ← runSecurityAudit now auditRun denyRun
  pure ⟨auditMetrics, calculateComplianceMetrics F checklist⟩

/-- `main()` of the dashboard script, given what `security_layers_checklist.csv` holds:
`SecurityDashboard()` loads the checklist, exiting with the printed line when it cannot, then
`generate_dashboard()` runs, and an exception it raises escapes `main`. -/
def main (F : Snapshot) (now : String) (contents : Option String) (auditRun denyRun : ToolRun) :
    Except (String ⊕ PyException) DashboardData :=
  match loadChecklist checklistFile contents with
  | .error msg => .error (.inl msg)
  | .ok checklist => (generateDashboard F now checklist auditRun denyRun).mapError .inr

/-! ## What a block can do -/

section Blocks

variable {α : Type} {failed unavailable : String} {read : Json → Except PyException α}
  {r : ToolRun}

/-- A block raises exactly when its tool exits 0 and the output is no JSON or the reading
raises. -/
lemma collectToolMetrics_eq_error {e : PyException} :
    collectToolMetrics failed unavailable read r = .error e ↔
      ∃ stdout, r = .completed 0 stdout ∧
        (loads stdout = none ∧ e = .jsonDecodeError ∨
          ∃ data, loads stdout = some data ∧ read data = .error e) := by
  cases r with
  | notInstalled | timedOut =>
    simp only [collectToolMetrics, reduceCtorEq, false_and, exists_false]
  | completed rc stdout =>
    simp only [collectToolMetrics, ToolRun.completed.injEq, and_assoc, exists_and_left,
      exists_eq_left']
    by_cases hrc : rc = 0
    · subst hrc
      cases h : loads stdout
      · simp only [↓reduceIte, h, Except.error.injEq, reduceCtorEq, false_and, exists_false,
          or_false, true_and, @eq_comm _ e]
      · simp only [↓reduceIte, h, Except.map_eq_error, Option.some.injEq, exists_eq_left',
          reduceCtorEq, false_and, false_or, true_and]
    · simp only [hrc, ↓reduceIte, reduceCtorEq, false_and]

/-- A block returns an error marker when its tool is unavailable or exits non-zero, and the
counts read from the output when it exits 0. -/
lemma collectToolMetrics_eq_ok {g : ToolMetrics α} :
    collectToolMetrics failed unavailable read r = .ok g ↔
      (r = .notInstalled ∨ r = .timedOut) ∧ g = .error unavailable ∨
      (∃ rc stdout, r = .completed rc stdout ∧ rc ≠ 0) ∧ g = .error failed ∨
      ∃ stdout data c, r = .completed 0 stdout ∧ loads stdout = some data ∧
        read data = .ok c ∧ g = .counts c := by
  cases r with
  | notInstalled | timedOut =>
    simp only [collectToolMetrics, Except.ok.injEq, reduceCtorEq, eq_self_iff_true, true_or,
      or_true, true_and, false_and, exists_false, or_false, @eq_comm _ _ g]
  | completed rc stdout =>
    simp only [collectToolMetrics, reduceCtorEq, false_or, false_and, ToolRun.completed.injEq,
      and_assoc, exists_and_left, exists_eq_left', exists_eq_left]
    by_cases hrc : rc = 0
    · subst hrc
      cases h : loads stdout
      · simp only [↓reduceIte, h, reduceCtorEq, ne_eq, not_true_eq_false, false_and, false_or,
          exists_false, and_false, iff_self]
      · simp only [↓reduceIte, h, Except.map_eq_ok, Option.some.injEq, exists_eq_left', ne_eq,
          not_true_eq_false, false_and, false_or, true_and, @eq_comm _ g]
    · simp only [hrc, ↓reduceIte, Except.ok.injEq, @eq_comm _ _ g, ne_eq, not_false_eq_true,
        true_and, false_and, or_false]

end Blocks

/-! ## The method -/

section Method

variable {now : String} {auditRun denyRun : ToolRun}

/-- **Each group depends only on its own tool.** `run_security_audit` returns exactly when
both blocks return, and then each group is what its own block returned. -/
lemma runSecurityAudit_eq_ok {m : AuditMetrics} :
    runSecurityAudit now auditRun denyRun = .ok m ↔ m.timestamp = now ∧
      cargoAudit auditRun = .ok m.vulnerabilities ∧ cargoDeny denyRun = .ok m.compliance := by
  obtain ⟨t, v, c⟩ := m
  simp only [runSecurityAudit, Except.bind_eq_ok, pure, Except.pure, Except.ok.injEq,
    AuditMetrics.mk.injEq]
  constructor
  · rintro ⟨v', hv, c', hc, rfl, rfl, rfl⟩
    exact ⟨rfl, hv, hc⟩
  · rintro ⟨rfl, hv, hc⟩
    exact ⟨v, hv, c, hc, rfl, rfl, rfl⟩

/-- `run_security_audit` raises what the audit block raises, or, when that block returns,
what the deny block raises. -/
lemma runSecurityAudit_eq_error {e : PyException} :
    runSecurityAudit now auditRun denyRun = .error e ↔ cargoAudit auditRun = .error e ∨
      (∃ v, cargoAudit auditRun = .ok v) ∧ cargoDeny denyRun = .error e := by
  simp only [runSecurityAudit, Except.bind_eq_error, pure, Except.pure, reduceCtorEq, and_false,
    exists_false, or_false, exists_and_right]

/-- `generate_dashboard` writes its reports exactly when `run_security_audit` returns. -/
lemma generateDashboard_eq_error {F : Snapshot} {checklist : List Row} {e : PyException} :
    generateDashboard F now checklist auditRun denyRun = .error e ↔
      runSecurityAudit now auditRun denyRun = .error e := by
  simp only [generateDashboard, Except.bind_eq_error, pure, Except.pure, reduceCtorEq, and_false,
    exists_false, or_false]

lemma complianceMetrics_of_generateDashboard_eq_ok {F : Snapshot} {checklist : List Row}
    {D : DashboardData} (h : generateDashboard F now checklist auditRun denyRun = .ok D) :
    D.complianceMetrics = calculateComplianceMetrics F checklist := by
  obtain ⟨_, -, h⟩ := Except.bind_eq_ok.1 h
  cases h
  rfl

/-- When the dashboard script finishes, its compliance metrics are those of the loaded
checklist. -/
lemma main_eq_ok {F : Snapshot} {contents : Option String} {D : DashboardData}
    (h : main F now contents auditRun denyRun = .ok D) :
    ∃ checklist, loadChecklist checklistFile contents = .ok checklist ∧
      D.complianceMetrics = calculateComplianceMetrics F checklist := by
  unfold main at h
  split at h
  · cases h
  · rename_i checklist hc
    have hg : generateDashboard F now checklist auditRun denyRun = .ok D := by
      cases hg : generateDashboard F now checklist auditRun denyRun <;> rw [hg] at h <;> cases h
      rfl
    exact ⟨checklist, hc, complianceMetrics_of_generateDashboard_eq_ok hg⟩

end Method

/-! ## The audit's counts -/

/-- The comprehension keeps no more items than it iterates over. -/
lemma criticalCount_le : ∀ {xs : List Json} {n : ℕ}, criticalCount xs = .ok n → n ≤ xs.length
  | [], n, h => by cases Except.ok.inj h; exact le_rfl
  | v :: vs, n, h => by
    simp only [criticalCount, Except.bind_eq_ok, pure, Except.pure, Except.ok.injEq] at h
    obtain ⟨_, -, k, hk, rfl⟩ := h
    have := criticalCount_le hk
    simp only [List.length_cons]
    split_ifs <;> omega

/-- The comprehension raises exactly when an item is no `dict`. -/
lemma criticalCount_isOk_iff :
    ∀ {xs : List Json}, (∃ n, criticalCount xs = .ok n) ↔ ∀ v ∈ xs, ∃ members, v = .object members
  | [] => by
    simp only [criticalCount, Except.ok.injEq, exists_eq', List.not_mem_nil, false_imp_iff,
      implies_true]
  | v :: vs => by
    rw [List.forall_mem_cons, ← criticalCount_isOk_iff]
    cases v with
    | object members =>
      simp only [criticalCount, Json.get, Except.exists_bind_eq_ok, pure, Except.pure,
        Except.ok.injEq, Json.object.injEq, exists_eq', and_true, exists_eq_left', true_and]
    | _ =>
      simp only [criticalCount, Json.get, Except.exists_bind_eq_ok, reduceCtorEq, false_and,
        exists_false]

/-- **Critical vulnerabilities are among the vulnerabilities.** -/
lemma critical_le_count_of_readVulnerabilities {data : Json} {c : VulnerabilityCounts}
    (h : readVulnerabilities data = .ok c) : c.critical ≤ c.count := by
  simp only [readVulnerabilities, Except.bind_eq_ok, pure, Except.pure, Except.ok.injEq] at h
  obtain ⟨v, hv, count, hcount, v', hv', xs, hxs, critical, hcrit, rfl⟩ := h
  obtain rfl : v' = v := Except.ok.inj (hv'.symm.trans hv)
  rw [Json.len_eq_of_iter_eq hxs, Except.ok.injEq] at hcount
  exact hcount ▸ criticalCount_le hcrit

/-- Whenever `run_security_audit` returns counts of vulnerabilities, the critical ones are
among them. -/
lemma critical_le_count_of_runSecurityAudit {now : String} {auditRun denyRun : ToolRun}
    {m : AuditMetrics} {c : VulnerabilityCounts} (h : runSecurityAudit now auditRun denyRun = .ok m)
    (hc : m.vulnerabilities = .counts c) : c.critical ≤ c.count := by
  obtain ⟨-, ha, -⟩ := runSecurityAudit_eq_ok.1 h
  rw [hc, cargoAudit, collectToolMetrics_eq_ok] at ha
  obtain ⟨-, h⟩ | ⟨-, h⟩ | ⟨_, _, c', -, -, hr, h⟩ := ha
  · cases h
  · cases h
  · cases h
    exact critical_le_count_of_readVulnerabilities hr

theorem critical_le_count_of_runSecurityAudit_one_critical :
    let auditRun : ToolRun := .completed 0 ("\x7b\"vulnerabilities\": [\x7b\"severity\": " ++
      "\"critical\"\x7d, \x7b\"severity\": \"low\"\x7d]\x7d")
    let m : AuditMetrics := ⟨"", .counts ⟨2, 1⟩, .error "Cargo deny not available"⟩
    runSecurityAudit "" auditRun .notInstalled = .ok m ∧ m.vulnerabilities = .counts ⟨2, 1⟩ ∧
      1 ≤ 2 := by
  intro auditRun m
  have h : runSecurityAudit "" auditRun .notInstalled = .ok m := rfl
  exact ⟨h, rfl, critical_le_count_of_runSecurityAudit h rfl⟩

/-- The `vulnerabilities` values the audit block reads without raising: a list of `dict`s, an
empty `dict` or an empty `str`. -/
def ReadableVulnerabilities : Json → Prop
  | .array elems => ∀ v ∈ elems, ∃ members, v = .object members
  | .object members => members = []
  | .str s => s = []
  | _ => False

/-- A value is readable exactly when it iterates, and only over `dict`s. -/
lemma readableVulnerabilities_iff_iter {v : Json} :
    ReadableVulnerabilities v ↔
      ∃ xs, v.iter = .ok xs ∧ ∀ x ∈ xs, ∃ members, x = .object members := by
  cases v with
  | array elems => simp only [ReadableVulnerabilities, Json.iter, Except.ok.injEq, exists_eq_left']
  | object members | str s =>
    simp only [ReadableVulnerabilities, Json.iter, Except.ok.injEq, exists_eq_left',
      List.forall_mem_map, reduceCtorEq, exists_false, imp_false, List.eq_nil_iff_forall_not_mem]
  | _ => simp only [ReadableVulnerabilities, Json.iter, reduceCtorEq, false_and, exists_false]

/-- The audit block reads a decoded report without raising exactly when it is a `dict` whose
`vulnerabilities` value, `[]` when absent, is readable. -/
lemma readVulnerabilities_isOk_iff {data : Json} :
    (∃ c, readVulnerabilities data = .ok c) ↔ ∃ members, data = .object members ∧
      ReadableVulnerabilities ((members.lookup (pyStr "vulnerabilities")).getD (.array [])) := by
  cases data with
  | object members =>
    simp only [readVulnerabilities, Json.get, Except.exists_bind_eq_ok, Except.ok.injEq,
      exists_eq_left', Json.object.injEq, readableVulnerabilities_iff_iter]
    constructor
    · rintro ⟨-, -, xs, hxs, c, hc, -⟩
      exact ⟨xs, hxs, criticalCount_isOk_iff.1 ⟨c, hc⟩⟩
    · rintro ⟨xs, hxs, hall⟩
      obtain ⟨c, hc⟩ := criticalCount_isOk_iff.2 hall
      exact ⟨_, Json.len_eq_of_iter_eq hxs, xs, hxs, c, hc, _, rfl⟩
  | _ =>
    simp only [readVulnerabilities, Json.get, Except.exists_bind_eq_ok, reduceCtorEq, false_and,
      exists_false]

/-- **The outputs the audit block survives.** After `cargo audit` exits 0, the block returns
exactly when its output is a JSON `dict` whose `vulnerabilities` value, `[]` when absent, is
a list of `dict`s, an empty `dict` or an empty `str`. -/
lemma cargoAudit_completed_isOk_iff {stdout : String} :
    (∃ g, cargoAudit (.completed 0 stdout) = .ok g) ↔
      ∃ members, loads stdout = some (.object members) ∧
        ReadableVulnerabilities ((members.lookup (pyStr "vulnerabilities")).getD (.array [])) := by
  simp only [cargoAudit, collectToolMetrics, if_true]
  cases loads stdout with
  | none => simp only [reduceCtorEq, exists_false, false_and]
  | some data =>
    simp only [Except.exists_map_eq_ok, readVulnerabilities_isOk_iff, Option.some.injEq]

/-! ## Outputs that escape -/

/-- `cargo audit` exits 0 with an empty output, with a JSON array, or with a report shaped
like its own, whose `vulnerabilities` value is a `dict`: `run_security_audit` raises,
whatever `cargo deny` would do, and `generate_dashboard` with it. `cargo deny` exiting 0
with an empty output makes it raise as well. -/
theorem runSecurityAudit_raises_on_tool_output (now : String) (denyRun : ToolRun)
    (F : Snapshot) (checklist : List Row) :
    runSecurityAudit now (.completed 0 "") denyRun = .error .jsonDecodeError ∧
    runSecurityAudit now (.completed 0 "[]") denyRun = .error .attributeError ∧
    runSecurityAudit now (.completed 0 ("\x7b\"lockfile\": \x7b\"dependency-count\": 1\x7d, " ++
      "\"vulnerabilities\": \x7b\"found\": false, \"count\": 0, \"list\": []\x7d\x7d"))
      denyRun = .error .attributeError ∧
    runSecurityAudit now .notInstalled (.completed 0 "") = .error .jsonDecodeError ∧
    generateDashboard F now checklist (.completed 0 "") denyRun = .error .jsonDecodeError :=
  ⟨rfl, rfl, rfl, rfl, rfl⟩

end SecurityDashboard

end SecurityCompliance
