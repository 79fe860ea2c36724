import SecurityCompliance.Dashboard.Metrics
import Mathlib.Algebra.Order.Field.Basic
import Mathlib.Tactic.NormNum
import Mathlib.Tactic.Positivity

/-!
# Every rate is a percentage

The scripts compute four rates with the one guarded formula `rate`: the report's global rate
and its per-layer rates in the text report, the dashboard's global rate and its per-layer
rates in the HTML report.  `rate x y` divides only when `y > 0`, and it lies in `[0, 100]`
as soon as `x ≤ y` (`rate_nonneg`, `rate_le_hundred`).  So the content of the bound is that
each numerator never exceeds its denominator, for every checklist and every layer:

* the report: implemented controls are applicable ones, globally and per layer;
* the dashboard: implemented controls are among all controls; per layer this is an invariant
  of the grouping loop (`implemented_add_missing_le_total`), kept by every update, which
  raises `total` and at most one of the other two counters.
-/

namespace SecurityCompliance

open SecurityDashboard

lemma rate_nonneg (x y : ℕ) : 0 ≤ rate x y := by
  unfold rate; split_ifs <;> positivity

lemma rate_le_hundred {x y : ℕ} (h : x ≤ y) : rate x y ≤ 100 := by
  unfold rate
  split_ifs with hy
  · rw [div_mul_eq_mul_div, div_le_iff₀ (by exact_mod_cast hy)]
    norm_cast
    omega
  · norm_num

/-- Every layer record of the dashboard counts no more implemented and missing rows than
rows. -/
lemma implemented_add_missing_le_total (F : Snapshot) (checklist : List Row) :
    ∀ e ∈ (calculateComplianceMetrics F checklist).layerMetrics.entries,
      e.2.implemented + e.2.missing ≤ e.2.total := by
  intro e he
  refine PyDict.forall_tally (fun m : LayerMetrics => m.implemented + m.missing ≤ m.total)
    checklist (le_refl 0) (fun r _ m hm => ?_) e he
  simp only [updateLayer_total, updateLayer_implemented, updateLayer_missing]
  cases (assessControl F r).status <;> simp <;> omega

end SecurityCompliance
