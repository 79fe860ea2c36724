import SecurityCompliance.Dashboard.Html
import SecurityCompliance.Properties.Agreement

/-!
# What the pages print

The exact model takes the scripts' rates as rationals (`rate`).  The scripts compute them as
Python floats (`PyFloat.pyRate`) and print them with `:.2f` and `:.1f`.  This module checks what
the exact model says against what the pages show.

* The float rate is the exact rate to `164 / 2 ^ 53` (`PyFloat.abs_toRat_pyRate_sub_le`), so the
  report's headline prints the exact rate to two decimals (`complianceRateLine_digits`).
* Printing `100.00%` does not mean that nothing is missing: the headline reads `100.00%` exactly
  when at most one applicable control in 20000 is missing (`complianceRateLine_eq_hundred_iff`).
  At exactly one in 20000 the exact rate is `99.995`, and the float `19999 / 20000 * 100` lies
  just above it (`pyRate_boundary`).
* The CSS class of a layer's rate cell is computed on the float, and it is the class of the
  exact rate that `htmlLayerRow` gives (`layerStatusClass_eq_htmlLayerRow`): `9 / 10 * 100` and
  `7 / 10 * 100` are exactly `90.0` and `70.0` in binary64, and below a threshold the exact rate
  of a layer of at most `2 ^ 48` controls falls short of it by more than the float's error
  (`PyFloat.le_toRat_pyRate_iff`).
* Layer by layer, the dashboard never prints a higher rate than the report
  (`htmlLayerRate_le_textLayerRate`): both roundings and the printing are monotone.
-/

namespace SecurityCompliance

open PyFloat SecurityDashboard

/-- `rate` is the exact value of the rate expression: `x / 0` is `0` in Lean as well. -/
lemma rate_eq_div_mul (x y : ℕ) : rate x y = x / y * 100 := by
  unfold rate
  split_ifs with h
  · rfl
  · rw [Nat.eq_zero_of_not_pos h]; simp

lemma append_append_eq_iff (s t u v : String) : s ++ t ++ v = s ++ u ++ v ↔ t = u := by
  constructor
  · intro h
    have := congrArg String.data h
    simp only [String.data_append, List.append_assoc, List.append_cancel_left_eq,
      List.append_cancel_right_eq] at this
    exact String.ext this
  · rintro rfl; rfl

/-- The digits of a non-negative value as a natural number, cast back. -/
lemma cast_toNat_fixedDigits {prec : ℕ} {v : ℚ} (hv : 0 ≤ v) :
    (((fixedDigits prec v).toNat : ℕ) : ℚ) = fixedDigits prec v := by
  exact_mod_cast Int.toNat_of_nonneg (fixedDigits_nonneg hv)

/-! ## The headline of the text report -/

/-- **The headline is the exact rate to two decimals.** For every list of assessments, the
`Compliance Rate` line prints the digits `d` of a number `d / 100` of at most `100.00`, within
half a unit of the last decimal, and the float's error, of the exact compliance rate. -/
theorem complianceRateLine_digits (now : String) (A : List Assessment) :
    ∃ d : ℕ, complianceRateLine (generateSummary now A) =
        "Compliance Rate: " ++ fixedText 2 d ++ "%" ∧ d ≤ 10000 ∧
      |(d : ℚ) / 100 - (generateSummary now A).complianceRate| ≤ 1 / 200 + 1 / 10 ^ 13 := by
  have hle := implemented_le_applicable A now
  set S := generateSummary now A
  set v := (pyRate S.implemented S.applicable).toRat
  have hv0 : 0 ≤ v := toRat_pyRate_nonneg
  have hD : fixedDigits 2 v ≤ 10000 := by
    have := fixedDigits_mono 2 (show v ≤ ((100 : ℕ) : ℚ) by
      exact_mod_cast toRat_pyRate_le_hundred hle)
    rwa [fixedDigits_natCast] at this
  refine ⟨(fixedDigits 2 v).toNat, by rw [complianceRateLine, formatFixed_pyRate], by omega, ?_⟩
  have h1 := abs_fixedDigits_sub_le 2 v
  norm_num at h1
  rw [cast_toNat_fixedDigits hv0, complianceRate_generateSummary, rate_eq_div_mul]
  calc |(fixedDigits 2 v : ℚ) / 100 - S.implemented / S.applicable * 100|
      ≤ |(fixedDigits 2 v : ℚ) / 100 - v| + |v - S.implemented / S.applicable * 100| :=
        abs_sub_le _ _ _
    _ ≤ 1 / 200 + 164 / 2 ^ 53 := add_le_add h1 (abs_toRat_pyRate_sub_le hle)
    _ ≤ 1 / 200 + 1 / 10 ^ 13 := by norm_num

/-- At one missing control in 20000 the exact rate is `99.995`; the float `19999 / 20000 * 100`
is `7036522574045512 * 2 ^ -46`, just above it. -/
lemma pyRate_boundary :
    roundBinary64 (roundBinary64 (19999 / 20000) * 100) = 7036522574045512 * 2 ^ (6 - 52 : ℤ) := by
  have h1 : roundBinary64 (19999 / 20000) = 9006748894778255 * 2 ^ (-1 - 52 : ℤ) :=
    roundBinary64_eq_of_abs_lt _ (by norm_num) (by norm_num) (by norm_num) (by norm_num [abs_lt])
  rw [h1]
  exact roundBinary64_eq_of_abs_lt _ (by norm_num) (by norm_num) (by norm_num)
    (by norm_num [abs_lt])

/-- `:.2f` prints `100.00` for a value of at most `100` above `99.995`. -/
lemma fixedDigits_two_eq_of_lt {v : ℚ} (h1 : 99995 / 1000 < v) (h2 : v ≤ 100) :
    fixedDigits 2 v = 10000 := by
  apply rneInt_eq_of_abs_lt
  rw [abs_lt]
  constructor <;> push_cast <;> linarith

/-- `:.2f` prints less than `100.00` for a value below `99.995`. -/
lemma fixedDigits_two_lt_of_lt {v : ℚ} (h : v < 99995 / 1000) : fixedDigits 2 v < 10000 := by
  have h' := (abs_le.1 (abs_fixedDigits_sub_le 2 v)).2
  have : (fixedDigits 2 v : ℚ) < 10000 := by norm_num at h'; linarith
  exact_mod_cast this

/-- The exact rate is `99.995` off by `(20000 x - 19999 y) / (200 y)`. -/
lemma div_mul_hundred_sub_boundary {x y : ℕ} (hy : 0 < y) :
    (x : ℚ) / y * 100 - 99995 / 1000 = (20000 * x - 19999 * y) / (200 * y) := by
  field_simp
  ring

/-- **The float rate against `99.995`**, for up to `2 ^ 37` controls: with at most one control
in 20000 missing it lies above, with more below.  Off the boundary the exact rate is at least
`1 / (200 y)` from `99.995`, more than the float's error; on it the float is
`pyRate_boundary`. -/
lemma toRat_pyRate_boundary {x y : ℕ} (hy : 0 < y) (hy' : y ≤ 2 ^ 37) (h : x ≤ y) :
    (20000 * (y - x) ≤ y → 99995 / 1000 < (pyRate x y).toRat) ∧
      (y < 20000 * (y - x) → (pyRate x y).toRat < 99995 / 1000) := by
  have herr := abs_le.1 (abs_toRat_pyRate_sub_le h)
  have hY : (0 : ℚ) < 200 * y := by positivity
  have hsmall : (164 : ℚ) / 2 ^ 53 < 1 / (200 * y) := by
    have : (y : ℚ) ≤ 2 ^ 37 := by exact_mod_cast hy'
    rw [div_lt_div_iff₀ (by positivity) hY]
    linarith only [this]
  have key := div_mul_hundred_sub_boundary (x := x) hy
  rcases lt_trichotomy (20000 * x) (19999 * y) with hlt | heq | hgt
  · have hc : (20000 * x - 19999 * y : ℚ) ≤ -1 := by
      have : (20000 * x + 1 : ℚ) ≤ 19999 * y := by exact_mod_cast hlt
      linarith only [this]
    have he : (x : ℚ) / y * 100 - 99995 / 1000 ≤ -1 / (200 * y) :=
      key ▸ div_le_div_of_nonneg_right hc hY.le
    rw [neg_div] at he
    exact ⟨fun h' => absurd h' (by omega), fun _ => by linarith only [herr.2, he, hsmall]⟩
  · have hq : (x : ℚ) / y = 19999 / 20000 := by
      rw [div_eq_div_iff (by positivity) (by norm_num)]
      exact_mod_cast (by omega : x * 20000 = 19999 * y)
    refine ⟨fun _ => ?_, fun h' => absurd h' (by omega)⟩
    rw [toRat_pyRate_of_pos hy, hq, pyRate_boundary]
    norm_num
  · have hc : (1 : ℚ) ≤ 20000 * x - 19999 * y := by
      have : (19999 * y + 1 : ℚ) ≤ 20000 * x := by exact_mod_cast hgt
      linarith only [this]
    have he : 1 / (200 * y) ≤ (x : ℚ) / y * 100 - 99995 / 1000 :=
      key ▸ div_le_div_of_nonneg_right hc hY.le
    exact ⟨fun _ => by linarith only [herr.1, he, hsmall], fun h' => absurd h' (by omega)⟩

/-- **`100.00%` with controls missing.** For up to `2 ^ 37` applicable controls, the text
report's headline reads `Compliance Rate: 100.00%` exactly when at most one applicable control
in 20000 is missing, so with up to `applicable / 20000` controls missing. -/
theorem complianceRateLine_eq_hundred_iff (now : String) (A : List Assessment)
    (ha : 0 < (generateSummary now A).applicable)
    (ha' : (generateSummary now A).applicable ≤ 2 ^ 37) :
    complianceRateLine (generateSummary now A) = "Compliance Rate: 100.00%" ↔
      20000 * (generateSummary now A).missing ≤ (generateSummary now A).applicable := by
  set S := generateSummary now A
  have hle : S.implemented ≤ S.applicable := implemented_le_applicable A now
  have hm : S.applicable - S.implemented = S.missing := by
    show S.implemented + S.missing - S.implemented = S.missing
    omega
  have hb := toRat_pyRate_boundary ha ha' hle
  rw [hm] at hb
  rw [complianceRateLine, formatFixed_pyRate,
    show "Compliance Rate: 100.00%" = "Compliance Rate: " ++ fixedText 2 10000 ++ "%" by decide,
    append_append_eq_iff]
  by_cases hc : 20000 * S.missing ≤ S.applicable
  · rw [fixedDigits_two_eq_of_lt (hb.1 hc) (toRat_pyRate_le_hundred hle)]
    exact iff_of_true rfl hc
  · have hD := fixedDigits_two_lt_of_lt (hb.2 (by omega))
    refine iff_of_false (fun htext => ?_) hc
    have hlen := @length_fixedText_le 2 _ 4 (by norm_num) (by norm_num)
      (show (fixedDigits 2 (pyRate S.implemented S.applicable).toRat).toNat < 10 ^ 4 by omega)
    rw [htext] at hlen
    exact absurd hlen (by decide)

theorem complianceRateLine_eq_hundred_iff_one_control :
    let A : List Assessment :=
      [⟨none, none, none, none, .implemented, "", none, none, none, none, none⟩]
    0 < (generateSummary "" A).applicable ∧ (generateSummary "" A).applicable ≤ 2 ^ 37 ∧
      (complianceRateLine (generateSummary "" A) = "Compliance Rate: 100.00%" ↔
        20000 * (generateSummary "" A).missing ≤ (generateSummary "" A).applicable) :=
  ⟨by decide, by decide, complianceRateLine_eq_hundred_iff "" _ (by decide) (by decide)⟩

/-! ## The layer table of the page -/

lemma mulInt_trueDiv_nine_ten : mulInt (trueDiv 9 10) 100 = 10 * (9 : ℕ) := by
  have h1 : trueDiv 9 10 = 8106479329266893 * 2 ^ (-1 - 52 : ℤ) := by
    rw [trueDiv, Nat.cast_ofNat, Nat.cast_ofNat]
    exact roundBinary64_eq_of_abs_lt _ (by norm_num) (by norm_num) (by norm_num)
      (by norm_num [abs_lt])
  rw [mulInt, h1, roundBinary64_eq_of_abs_lt (k := 6) 6333186975989760 (by norm_num)
    (by norm_num) (by norm_num) (by norm_num [abs_lt])]
  norm_num

lemma mulInt_trueDiv_seven_ten : mulInt (trueDiv 7 10) 100 = 10 * (7 : ℕ) := by
  have h1 : trueDiv 7 10 = 6305039478318694 * 2 ^ (-1 - 52 : ℤ) := by
    rw [trueDiv, Nat.cast_ofNat, Nat.cast_ofNat]
    exact roundBinary64_eq_of_abs_lt _ (by norm_num) (by norm_num) (by norm_num)
      (by norm_num [abs_lt])
  rw [mulInt, h1, roundBinary64_eq_of_abs_lt (k := 6) 4925812092436480 (by norm_num)
    (by norm_num) (by norm_num) (by norm_num [abs_lt])]
  norm_num

/-- A layer's record counts its implemented rows among at most all the rows. -/
lemma layerMetrics_le {F : Snapshot} {checklist : List Row} {e : Option String × LayerMetrics}
    (he : e ∈ (calculateComplianceMetrics F checklist).layerMetrics.entries) :
    e.2.implemented ≤ e.2.total ∧ e.2.total ≤ checklist.length := by
  have hk : e.1 ∈ checklist.map (·.get "Layer #" (some "Unknown")) :=
    (PyDict.mem_keys_tally _ _ _ checklist e.1).1 (List.mem_map_of_mem Prod.fst he)
  have h := (PyDict.get?_of_mem he).symm.trans (get?_calculateComplianceMetrics F checklist hk)
  rw [Option.some.injEq] at h
  rw [h]
  exact ⟨List.countP_mono_left fun r _ hr => by simp_all, List.countP_le_length _⟩

/-- **The page's classes are the exact rates' classes.** For a checklist of at most `2 ^ 48`
rows, the class `generate_html_report` gives each layer's rate cell, computed on the float
rate, is the class of the exact rate, the one `htmlLayerRow` records. -/
theorem layerStatusClass_eq_htmlLayerRow (F : Snapshot) (checklist : List Row)
    (h : checklist.length ≤ 2 ^ 48) :
    ∀ e ∈ (calculateComplianceMetrics F checklist).layerMetrics.entries,
      layerStatusClass e.2 = (htmlLayerRow e.1 e.2).statusClass := by
  intro e he
  obtain ⟨hi, ht⟩ := layerMetrics_le he
  have h9 := le_toRat_pyRate_iff mulInt_trueDiv_nine_ten (ht.trans h) hi
  have h7 := le_toRat_pyRate_iff mulInt_trueDiv_seven_ten (ht.trans h) hi
  rw [show (10 : ℚ) * ((9 : ℕ) : ℚ) = 90 by norm_num] at h9
  rw [show (10 : ℚ) * ((7 : ℕ) : ℚ) = 70 by norm_num] at h7
  simp only [layerStatusClass, htmlLayerRow, statusClass, ge_iff_le, h9, h7, rate_eq_div_mul]

theorem layerStatusClass_eq_htmlLayerRow_one_row :
    let checklist : List Row :=
      [⟨[("Layer #", some "1"), ("Policy/Config Artifact", some "a")], by decide⟩]
    checklist.length ≤ 2 ^ 48 ∧
      ∀ e ∈ (calculateComplianceMetrics Snapshot.empty checklist).layerMetrics.entries,
        layerStatusClass e.2 = (htmlLayerRow e.1 e.2).statusClass :=
  ⟨by decide, layerStatusClass_eq_htmlLayerRow Snapshot.empty _ (by decide)⟩

/-- **The dashboard never prints a higher layer rate than the report.** When every row has a
`Layer #` cell, the page's layer table and the report's layer lines list the same layers in
the same order, and each rate the page prints with `:.1f` is the text of digits at most those
the report prints for the layer: the page divides by the layer's total, Not Applicable
controls included, and both roundings and the printing are monotone. -/
theorem htmlLayerRate_le_textLayerRate (F : Snapshot) (now : String) (checklist : List Row)
    (h : ∀ r ∈ checklist, "Layer #" ∈ r.keys) :
    List.Forall₂ (fun (e : Option String × LayerMetrics) (l : TextLayerLine) =>
        e.1 = l.layer ∧ ∃ dh dl : ℕ, (pyRate e.2.implemented e.2.total).formatFixed 1 =
          fixedText 1 dh ∧ (pyRate l.implemented l.applicable).formatFixed 1 = fixedText 1 dl ∧
          dh ≤ dl)
      (calculateComplianceMetrics F checklist).layerMetrics.entries
      (generateTextReport (checklist.map (assessControl F))
        (generateSummary now (checklist.map (assessControl F)))).layers := by
  rw [layerMetrics_eq_map_layerStatistics F now checklist h]
  simp only [generateTextReport, List.forall₂_map_left_iff, List.forall₂_map_right_iff]
  refine List.forall₂_same.2 fun e _ =>
    ⟨rfl, _, _, formatFixed_pyRate 1 _ _, formatFixed_pyRate 1 _ _, ?_⟩
  exact Int.toNat_le_toNat (fixedDigits_mono 1
    (toRat_pyRate_anti (Nat.le_add_right _ _) (Nat.le_add_right _ _)))

theorem htmlLayerRate_le_textLayerRate_one_layer :
    let checklist : List Row :=
      [⟨[("Layer #", some "1"), ("Policy/Config Artifact", some "")], by decide⟩,
        ⟨[("Layer #", some "1"), ("Policy/Config Artifact", some "a")], by decide⟩]
    (∀ r ∈ checklist, "Layer #" ∈ r.keys) ∧
      List.Forall₂ (fun (e : Option String × LayerMetrics) (l : TextLayerLine) =>
          e.1 = l.layer ∧ ∃ dh dl : ℕ, (pyRate e.2.implemented e.2.total).formatFixed 1 =
            fixedText 1 dh ∧ (pyRate l.implemented l.applicable).formatFixed 1 = fixedText 1 dl ∧
            dh ≤ dl)
        (calculateComplianceMetrics Snapshot.empty checklist).layerMetrics.entries
        (generateTextReport (checklist.map (assessControl Snapshot.empty))
          (generateSummary "" (checklist.map (assessControl Snapshot.empty)))).layers :=
  ⟨by decide, htmlLayerRate_le_textLayerRate Snapshot.empty "" _ (by decide)⟩

end SecurityCompliance
