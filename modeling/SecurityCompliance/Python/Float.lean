import Mathlib.Data.Int.Log
import Mathlib.Data.Nat.Digits
import Mathlib.Data.Rat.Floor
import Mathlib.Algebra.Order.Field.Power
import Mathlib.Tactic.FieldSimp
import Mathlib.Tactic.Linarith
import Mathlib.Tactic.NormNum
import Mathlib.Tactic.Positivity

/-!
# Python floats

Every rate the two scripts show is `(x / y * 100) if y > 0 else 0` on two `int` counts, and it
is float arithmetic: `x / y` of two `int`s is the binary64 value nearest the exact quotient
(CPython's `long_true_divide` rounds correctly, ties to even), `* 100` converts `100` exactly and
rounds the exact product again, and the `else` branch is the `int` `0`.  The scripts print the
result with `f"{rate:.1f}"` or `f"{rate:.2f}"`, which round the exact binary value half to even
at the last decimal, and compare it with `>= 90` and `>= 70`, which Python does exactly.

The model works on `ℚ`, the exact values of binary64 numbers.

* `roundBinary64 x` rounds `x` to a multiple of `2 ^ ulpExp x` with `rneInt`, round half to even.
  Its specification is the pair `isBinary64_roundBinary64` (the result is a binary64 value) and
  `roundBinary64_nearest` (no binary64 value is closer to `x`).  The proof of nearness is the grid
  argument: on the grid `2 ^ ulpExp x ℤ` the integer rounding is nearest
  (`abs_sub_roundBinary64_le_grid`), and a binary64 value off that grid lies within the binade
  below `|x|`, beyond the grid point `± 2 ^ Int.log 2 |x|`.
* The rest follows from the specification: `roundBinary64` fixes binary64 values
  (`roundBinary64_eq_self`), is monotone (`roundBinary64_mono`, by nearness alone, whatever the
  ties do), and is off by half a unit in the last place (`abs_sub_roundBinary64_le`).
* `pyRate x y` is the rate expression, a `PyNum`; `formatFixed prec v` is `format(v, ".{prec}f")`,
  whose digits are `fixedDigits prec v`, the integer nearest `v * 10 ^ prec`.

Overflow is left out: `roundBinary64` never returns `inf`, and `IsBinary64` puts no upper bound
on the exponent.  The scripts only round values between `0` and `100`.
-/

namespace SecurityCompliance

namespace PyFloat

/-! ## Rounding to an integer, ties to even -/

/-- **Round half to even**: the floor of `q`, or the integer above it when the fraction is more
than one half, or exactly one half over an odd floor. -/
def rneInt (q : ℚ) : ℤ :=
  if 1 / 2 < q - ⌊q⌋ ∨ (q - ⌊q⌋ = 1 / 2 ∧ ⌊q⌋ % 2 = 1) then ⌊q⌋ + 1 else ⌊q⌋

/-- **`rneInt q` is an integer nearest `q`.** -/
theorem abs_sub_rneInt_le (q : ℚ) (k : ℤ) : |q - rneInt q| ≤ |q - k| := by
  have h0 : (⌊q⌋ : ℚ) ≤ q := Int.floor_le q
  have h1 : q < ⌊q⌋ + 1 := Int.lt_floor_add_one q
  have hk : (k : ℚ) ≤ ⌊q⌋ ∨ (⌊q⌋ : ℚ) + 1 ≤ k := by
    rcases le_or_lt k ⌊q⌋ with h | h
    · exact .inl (by exact_mod_cast h)
    · exact .inr (by exact_mod_cast h)
  have hb := le_abs_self (q - k)
  have hb' := neg_abs_le (q - k)
  unfold rneInt
  split_ifs with h
  · have hr : 1 / 2 ≤ q - ⌊q⌋ := by rcases h with h | ⟨h, -⟩ <;> linarith only [h]
    push_cast
    rw [abs_of_neg (by linarith only [h1])]
    rcases hk with hk | hk
    · linarith only [hr, hk, hb]
    · linarith only [hk, hb']
  · have hr : q - ⌊q⌋ ≤ 1 / 2 := le_of_not_lt fun h' => h (.inl h')
    rw [abs_of_nonneg (by linarith only [h0])]
    rcases hk with hk | hk
    · linarith only [hk, hb]
    · linarith only [hr, hk, hb']

lemma abs_sub_rneInt_le_half (q : ℚ) : |q - rneInt q| ≤ 1 / 2 :=
  (abs_sub_rneInt_le q (round q)).trans (abs_sub_round q)

/-- An integer within one half of `q` is `rneInt q`. -/
lemma rneInt_eq_of_abs_lt {q : ℚ} {n : ℤ} (h : |q - n| < 1 / 2) : rneInt q = n := by
  have h' := (abs_sub_rneInt_le q n).trans_lt h
  have : |((rneInt q - n : ℤ) : ℚ)| < 1 := by
    push_cast
    calc |(rneInt q : ℚ) - n| = |(q - n) - (q - rneInt q)| := by ring_nf
      _ ≤ |q - n| + |q - rneInt q| := abs_sub _ _
      _ < 1 := by linarith
  rw [← Int.cast_abs, ← Int.cast_one, Int.cast_lt, Int.abs_lt_one_iff, sub_eq_zero] at this
  exact this

/-- Rounding keeps a bound by an integer. -/
lemma abs_rneInt_le {q : ℚ} {n : ℤ} (h : |q| ≤ n) : |rneInt q| ≤ n := by
  have : |(rneInt q : ℚ)| < n + 1 := by
    calc |(rneInt q : ℚ)| = |q - (q - rneInt q)| := by ring_nf
      _ ≤ |q| + |q - rneInt q| := abs_sub _ _
      _ < n + 1 := by linarith [abs_sub_rneInt_le_half q]
  exact Int.lt_add_one_iff.1 (by exact_mod_cast this)

/-- **A map to nearest points is monotone**, whatever it does on ties: if `x ≤ x'` and `r x'`
were below `r x`, `x` would lie above their midpoint and `x'` below it. -/
lemma monotone_of_nearest {S : ℚ → Prop} {r : ℚ → ℚ} (hS : ∀ x, S (r x))
    (hr : ∀ x y, S y → |x - r x| ≤ |x - y|) : Monotone r := by
  have mid : ∀ {z a b : ℚ}, a < b → |z - b| ≤ |z - a| → a + b ≤ 2 * z := by
    intro z a b hab h
    rcases abs_cases (z - a) with ⟨ha, ha'⟩ | ⟨ha, ha'⟩ <;>
      rcases abs_cases (z - b) with ⟨hb, hb'⟩ | ⟨hb, hb'⟩ <;> linarith
  intro x x' hx
  by_contra hlt
  have hlt := lt_of_not_le hlt
  have h1 := mid hlt (hr x _ (hS x'))
  have h2 : |-x' - -r x'| ≤ |-x' - -r x| := by
    rw [neg_sub_neg, neg_sub_neg, abs_sub_comm, abs_sub_comm (r x)]
    exact hr x' _ (hS x)
  have h2 := mid (neg_lt_neg hlt) h2
  have : x = x' := by linarith
  subst this
  exact lt_irrefl _ hlt

lemma rneInt_mono {q q' : ℚ} (h : q ≤ q') : rneInt q ≤ rneInt q' := by
  have := monotone_of_nearest (S := fun y => ∃ k : ℤ, y = k) (fun q => ⟨rneInt q, rfl⟩)
    (by rintro q _ ⟨k, rfl⟩; exact abs_sub_rneInt_le q k) h
  exact_mod_cast this

/-! ## Rounding to binary64 -/

/-- The exponent of the last binary place of the binary64 values of `x`'s binade: 52 places
below `2 ^ Int.log 2 |x|`, and never below the subnormal spacing `2 ^ -1074`. -/
def ulpExp (x : ℚ) : ℤ := max (Int.log 2 |x| - 52) (-1074)

/-- **The binary64 value nearest `x`**, ties to an even significand: `x` rounded half to even
to a multiple of `2 ^ ulpExp x`. -/
def roundBinary64 (x : ℚ) : ℚ := rneInt (x / 2 ^ ulpExp x) * 2 ^ ulpExp x

/-- The finite binary64 values: an integer significand of at most 53 bits times a power of two
not below `2 ^ -1074`.  (`≤ 2 ^ 53` rather than `<` changes nothing, as `2 ^ 53 * 2 ^ e` is
`2 ^ 52 * 2 ^ (e + 1)`; the upper bound on the exponent is left out with overflow.) -/
def IsBinary64 (y : ℚ) : Prop := ∃ m e : ℤ, |m| ≤ 2 ^ 53 ∧ -1074 ≤ e ∧ y = m * 2 ^ e

lemma zpow_log_le_abs {x : ℚ} (hx : x ≠ 0) : (2 : ℚ) ^ Int.log 2 |x| ≤ |x| := by
  exact_mod_cast @Int.zpow_log_le_self ℚ _ _ 2 |x| one_lt_two (abs_pos.2 hx)

lemma abs_lt_zpow_log_add_one (x : ℚ) : |x| < (2 : ℚ) ^ (Int.log 2 |x| + 1) := by
  exact_mod_cast @Int.lt_zpow_succ_log_self ℚ _ _ 2 one_lt_two |x|

/-- The binade of a positive `x` is the `k` with `2 ^ k ≤ x < 2 ^ (k + 1)`. -/
lemma log_eq_of_le_of_lt {x : ℚ} {k : ℤ} (h1 : 2 ^ k ≤ x) (h2 : x < 2 ^ (k + 1)) :
    Int.log 2 x = k := by
  have hx : 0 < x := lt_of_lt_of_le (by positivity) h1
  refine le_antisymm ?_ ?_
  · have := (@Int.lt_zpow_iff_log_lt ℚ _ _ 2 one_lt_two (k + 1) x hx).1 (by exact_mod_cast h2)
    omega
  · exact (@Int.zpow_le_iff_le_log ℚ _ _ 2 one_lt_two k x hx).1 (by exact_mod_cast h1)

lemma scale_abs_sub (x n : ℚ) (u : ℤ) : |x - n * 2 ^ u| = 2 ^ u * |x / 2 ^ u - n| := by
  have hu : (0 : ℚ) < 2 ^ u := by positivity
  rw [← abs_of_pos hu, ← abs_mul, abs_of_pos hu, mul_sub, mul_div_cancel₀ _ hu.ne', mul_comm]

/-- **On the grid** `2 ^ ulpExp x ℤ` no point is closer to `x` than `roundBinary64 x`. -/
lemma abs_sub_roundBinary64_le_grid (x : ℚ) (K : ℤ) :
    |x - roundBinary64 x| ≤ |x - K * 2 ^ ulpExp x| := by
  rw [roundBinary64, scale_abs_sub, scale_abs_sub]
  exact mul_le_mul_of_nonneg_left (abs_sub_rneInt_le _ K) (by positivity)

@[simp] lemma roundBinary64_zero : roundBinary64 0 = 0 := by
  rw [roundBinary64, zero_div, rneInt_eq_of_abs_lt (n := 0) (by norm_num), Int.cast_zero, zero_mul]

/-- Half a unit in the last place. -/
lemma abs_sub_roundBinary64_le_ulp (x : ℚ) : |x - roundBinary64 x| ≤ 2 ^ ulpExp x / 2 := by
  rw [roundBinary64, scale_abs_sub]
  have := mul_le_mul_of_nonneg_left (abs_sub_rneInt_le_half (x / 2 ^ ulpExp x))
    (show (0 : ℚ) ≤ 2 ^ ulpExp x by positivity)
  linarith

/-- **Off the grid, below the binade.** When the last place of `x` is 52 binary places below
its binade `2 ^ k`, the grid point `± 2 ^ k` on the side of `x` is no farther from `x` than
`|x| - 2 ^ k`, so neither is `roundBinary64 x`. -/
lemma abs_sub_roundBinary64_le_binade {x : ℚ} (hx : x ≠ 0)
    (hu : ulpExp x = Int.log 2 |x| - 52) :
    |x - roundBinary64 x| ≤ |x| - 2 ^ Int.log 2 |x| := by
  have hk := zpow_log_le_abs hx
  have hg : ((2 ^ 52 : ℤ) : ℚ) * 2 ^ ulpExp x = 2 ^ Int.log 2 |x| := by
    rw [hu, zpow_sub₀ two_ne_zero]; push_cast; field_simp; ring
  rcases lt_or_gt_of_ne hx with hneg | hpos
  · have h := abs_sub_roundBinary64_le_grid x (-2 ^ 52)
    rw [Int.cast_neg, neg_mul, hg] at h
    rw [abs_of_neg hneg] at hk h ⊢
    rw [abs_of_nonpos (show x - -2 ^ Int.log 2 (-x) ≤ 0 by linarith)] at h
    linarith
  · have h := abs_sub_roundBinary64_le_grid x (2 ^ 52)
    rw [hg] at h
    rw [abs_of_pos hpos] at hk h ⊢
    rwa [abs_of_nonneg (show 0 ≤ x - 2 ^ Int.log 2 x by linarith)] at h

/-- **Nearest.** No binary64 value is closer to `x` than `roundBinary64 x`. -/
theorem roundBinary64_nearest (x y : ℚ) (hy : IsBinary64 y) :
    |x - roundBinary64 x| ≤ |x - y| := by
  obtain ⟨m, e, hm, he, rfl⟩ := hy
  rcases le_or_lt (ulpExp x) e with hue | heu
  · -- on the grid: `y` is the multiple `m * 2 ^ (e - ulpExp x)` of the last place
    have hy : (m : ℚ) * 2 ^ e = ((m * 2 ^ (e - ulpExp x).toNat : ℤ) : ℚ) * 2 ^ ulpExp x := by
      rw [Int.cast_mul, Int.cast_pow, Int.cast_two, mul_assoc, ← zpow_natCast,
        ← zpow_add₀ two_ne_zero, Int.toNat_of_nonneg (by omega), sub_add_cancel]
    rw [hy]
    exact abs_sub_roundBinary64_le_grid x _
  · -- off the grid: `|y| ≤ 2 ^ (e + 53) ≤ 2 ^ Int.log 2 |x| ≤ |x|`
    rcases eq_or_ne x 0 with rfl | hx
    · rw [roundBinary64_zero, sub_zero, abs_zero]; exact abs_nonneg _
    have hu : ulpExp x = Int.log 2 |x| - 52 := by unfold ulpExp at heu ⊢; omega
    have hy : |(m : ℚ) * 2 ^ e| ≤ 2 ^ Int.log 2 |x| :=
      calc |(m : ℚ) * 2 ^ e| = |(m : ℚ)| * 2 ^ e := by
            rw [abs_mul, abs_of_pos (show (0 : ℚ) < 2 ^ e by positivity)]
        _ ≤ 2 ^ 53 * 2 ^ e := mul_le_mul_of_nonneg_right (by exact_mod_cast hm) (by positivity)
        _ = 2 ^ (e + 53) := by rw [zpow_add₀ two_ne_zero, mul_comm]; norm_num
        _ ≤ 2 ^ Int.log 2 |x| := zpow_le_zpow_right₀ one_le_two (by omega)
    linarith [abs_sub_roundBinary64_le_binade hx hu, abs_sub_abs_le_abs_sub x (m * 2 ^ e)]

/-- **The result is a binary64 value**: its significand `rneInt (x / 2 ^ ulpExp x)` has at most
53 bits, as `|x| < 2 ^ (Int.log 2 |x| + 1) ≤ 2 ^ (ulpExp x + 53)`. -/
theorem isBinary64_roundBinary64 (x : ℚ) : IsBinary64 (roundBinary64 x) := by
  refine ⟨rneInt (x / 2 ^ ulpExp x), ulpExp x, abs_rneInt_le ?_, le_max_right _ _, rfl⟩
  have hu : (0 : ℚ) < 2 ^ ulpExp x := by positivity
  rw [abs_div, abs_of_pos hu, div_le_iff₀ hu]
  calc |x| ≤ 2 ^ (Int.log 2 |x| + 1) := (abs_lt_zpow_log_add_one x).le
    _ ≤ 2 ^ (53 + ulpExp x) := zpow_le_zpow_right₀ one_le_two (by unfold ulpExp; omega)
    _ = ((2 ^ 53 : ℤ) : ℚ) * 2 ^ ulpExp x := by
      rw [zpow_add₀ two_ne_zero]; norm_num

/-- Binary64 values are kept. -/
theorem roundBinary64_eq_self {x : ℚ} (hx : IsBinary64 x) : roundBinary64 x = x := by
  have := roundBinary64_nearest x x hx
  rw [sub_self, abs_zero, abs_nonpos_iff, sub_eq_zero] at this
  exact this.symm

theorem roundBinary64_mono : Monotone roundBinary64 :=
  monotone_of_nearest isBinary64_roundBinary64 roundBinary64_nearest

/-- **Error bound.** Below `2 ^ (j + 1)`, rounding moves `x` by at most `2 ^ j / 2 ^ 53`. -/
theorem abs_sub_roundBinary64_le {x : ℚ} (j : ℕ) (hx : |x| < 2 ^ (j + 1)) :
    |x - roundBinary64 x| ≤ 2 ^ j / 2 ^ 53 := by
  have hlog : Int.log 2 |x| ≤ j := by
    rcases eq_or_ne x 0 with rfl | hx0
    · simp
    have := (@Int.lt_zpow_iff_log_lt ℚ _ _ 2 one_lt_two ((j : ℤ) + 1) |x| (abs_pos.2 hx0)).1
      (by exact_mod_cast hx)
    omega
  calc |x - roundBinary64 x| ≤ 2 ^ ulpExp x / 2 := abs_sub_roundBinary64_le_ulp x
    _ ≤ 2 ^ ((j : ℤ) - 52) / 2 :=
      div_le_div_of_nonneg_right (zpow_le_zpow_right₀ one_le_two (by unfold ulpExp; omega))
        zero_le_two
    _ = 2 ^ j / 2 ^ 53 := by rw [zpow_sub₀ two_ne_zero]; field_simp; ring

/-- **Rounding a value of binade `k`**: within half a unit of `n * 2 ^ (k - 52)`, for a normal
binade, it rounds to that value. -/
lemma roundBinary64_eq_of_abs_lt {x : ℚ} {k : ℤ} (n : ℤ) (hk : -1022 ≤ k) (h1 : 2 ^ k ≤ x)
    (h2 : x < 2 ^ (k + 1)) (h : |x / 2 ^ (k - 52) - n| < 1 / 2) :
    roundBinary64 x = n * 2 ^ (k - 52) := by
  have hx : 0 < x := lt_of_lt_of_le (by positivity) h1
  have hu : ulpExp x = k - 52 := by
    rw [ulpExp, abs_of_pos hx, log_eq_of_le_of_lt h1 h2]; omega
  rw [roundBinary64, hu, rneInt_eq_of_abs_lt h]

/-! ## Numbers and the rate expression -/

/-- A number as the scripts hold one: an `int`, or a `float` by its exact value. -/
inductive PyNum where
  | int (n : ℤ)
  | float (x : ℚ)
deriving DecidableEq, Repr

/-- The exact value, which Python's comparisons of mixed `int` and `float` use. -/
def PyNum.toRat : PyNum → ℚ
  | .int n => n
  | .float x => x

/-- `float(v)`: an `int` is converted to the nearest float. -/
def PyNum.toFloat : PyNum → ℚ
  | .int n => roundBinary64 n
  | .float x => x

/-- `x / y` on two `int`s, `y > 0`: the binary64 value nearest the quotient. -/
def trueDiv (x y : ℕ) : ℚ := roundBinary64 (x / y)

/-- `v * n` on a `float` and an `int`: `n` is converted exactly, the product rounded once. -/
def mulInt (v : ℚ) (n : ℤ) : ℚ := roundBinary64 (v * n)

/-- `(x / y * 100) if y > 0 else 0`, every rate of both scripts. -/
def pyRate (x y : ℕ) : PyNum := if y > 0 then .float (mulInt (trueDiv x y) 100) else .int 0

lemma isBinary64_natCast {n : ℕ} (hn : n ≤ 2 ^ 53) : IsBinary64 n :=
  ⟨n, 0, by rw [Nat.abs_cast]; exact_mod_cast hn, by norm_num, by simp⟩

lemma roundBinary64_natCast {n : ℕ} (hn : n ≤ 2 ^ 53) : roundBinary64 n = n :=
  roundBinary64_eq_self (isBinary64_natCast hn)

section Rate

variable {x y : ℕ}

lemma toRat_pyRate_of_pos (hy : 0 < y) :
    (pyRate x y).toRat = roundBinary64 (roundBinary64 (x / y) * 100) := by
  simp [pyRate, hy, PyNum.toRat, mulInt, trueDiv]

@[simp] lemma toRat_pyRate_zero_right : (pyRate x 0).toRat = 0 := by simp [pyRate, PyNum.toRat]

@[simp] lemma toFloat_pyRate : (pyRate x y).toFloat = (pyRate x y).toRat := by
  by_cases hy : y > 0 <;> simp [pyRate, hy, PyNum.toRat, PyNum.toFloat]

@[simp] lemma toRat_pyRate_zero_left : (pyRate 0 y).toRat = 0 := by
  rcases Nat.eq_zero_or_pos y with rfl | hy
  · simp
  · simp [toRat_pyRate_of_pos hy]

lemma roundBinary64_div_le_one (h : x ≤ y) : roundBinary64 (x / y) ≤ 1 :=
  calc roundBinary64 (x / y) ≤ roundBinary64 (1 : ℕ) :=
        roundBinary64_mono (by simpa using div_le_one_of_le₀ (by exact_mod_cast h) (by positivity))
    _ = 1 := by rw [roundBinary64_natCast (by norm_num), Nat.cast_one]

lemma toRat_pyRate_self (hy : 0 < y) : (pyRate y y).toRat = 100 := by
  rw [toRat_pyRate_of_pos hy, div_self (by positivity), ← Nat.cast_one,
    roundBinary64_natCast (by norm_num), Nat.cast_one, one_mul, ← Nat.cast_ofNat,
    roundBinary64_natCast (by norm_num)]

lemma toRat_pyRate_nonneg : 0 ≤ (pyRate x y).toRat := by
  rcases Nat.eq_zero_or_pos y with rfl | hy
  · simp
  rw [toRat_pyRate_of_pos hy]
  have h0 := roundBinary64_mono (show (0 : ℚ) ≤ x / y by positivity)
  simpa using roundBinary64_mono (mul_nonneg (by simpa using h0) (by norm_num : (0 : ℚ) ≤ 100))

lemma toRat_pyRate_le_hundred (h : x ≤ y) : (pyRate x y).toRat ≤ 100 := by
  rcases Nat.eq_zero_or_pos y with rfl | hy
  · norm_num
  rw [toRat_pyRate_of_pos hy]
  calc roundBinary64 (roundBinary64 (x / y) * 100) ≤ roundBinary64 ((100 : ℕ) : ℚ) :=
        roundBinary64_mono (by
          simpa using mul_le_mul_of_nonneg_right (roundBinary64_div_le_one h)
            (by norm_num : (0 : ℚ) ≤ 100))
    _ = 100 := by rw [roundBinary64_natCast (by norm_num), Nat.cast_ofNat]

/-- **A larger denominator gives a smaller float rate**, as it does an exact one: both roundings
are monotone. -/
lemma toRat_pyRate_anti {a t : ℕ} (hx : x ≤ a) (ha : a ≤ t) :
    (pyRate x t).toRat ≤ (pyRate x a).toRat := by
  rcases Nat.eq_zero_or_pos a with rfl | ha0
  · rw [Nat.le_zero.1 hx, toRat_pyRate_zero_left, toRat_pyRate_zero_left]
  have hq : (x : ℚ) / t ≤ x / a :=
    div_le_div_of_nonneg_left (by positivity) (by exact_mod_cast ha0) (by exact_mod_cast ha)
  rw [toRat_pyRate_of_pos ha0, toRat_pyRate_of_pos (lt_of_lt_of_le ha0 ha)]
  exact roundBinary64_mono (mul_le_mul_of_nonneg_right (roundBinary64_mono hq) (by norm_num))

/-- **The float rate is the exact rate to 14 decimals**: the two roundings move a quotient of
at most `1` by at most `2 ^ -53` and the percentage by at most `2 ^ -47`. -/
theorem abs_toRat_pyRate_sub_le (h : x ≤ y) :
    |(pyRate x y).toRat - x / y * 100| ≤ 164 / 2 ^ 53 := by
  rcases Nat.eq_zero_or_pos y with rfl | hy
  · norm_num
  set q : ℚ := x / y
  set r := roundBinary64 q
  have hq0 : 0 ≤ q := by positivity
  have hq1 : q ≤ 1 := div_le_one_of_le₀ (by exact_mod_cast h) (by positivity)
  have hr0 : 0 ≤ r := by simpa using roundBinary64_mono hq0
  have hr1 : r ≤ 1 := roundBinary64_div_le_one h
  have h1 := abs_sub_roundBinary64_le 0 (x := q)
    (by rw [abs_of_nonneg hq0]; norm_num; linarith only [hq1])
  have h2 := abs_sub_roundBinary64_le 6 (x := r * 100)
    (by rw [abs_of_nonneg (by positivity)]; norm_num; linarith only [hr1])
  rw [toRat_pyRate_of_pos hy]
  calc |roundBinary64 (r * 100) - q * 100|
      = |-(r * 100 - roundBinary64 (r * 100)) + 100 * (r - q)| := by ring_nf
    _ ≤ |r * 100 - roundBinary64 (r * 100)| + 100 * |q - r| := by
        rw [abs_sub_comm q r, ← abs_neg (r * 100 - _), ← abs_of_pos (show (0 : ℚ) < 100 by norm_num),
          ← abs_mul, abs_of_pos (show (0 : ℚ) < 100 by norm_num)]
        exact abs_add _ _
    _ ≤ 2 ^ 6 / 2 ^ 53 + 100 * (2 ^ 0 / 2 ^ 53) :=
        add_le_add h2 (mul_le_mul_of_nonneg_left h1 (by norm_num))
    _ = 164 / 2 ^ 53 := by norm_num

/-- **Thresholds are exact.** When `float(p / 10) * 100` is exactly `10 * p`, the float rate
reaches `10 * p` exactly when the exact rate does, for at most `2 ^ 48` controls: below the
threshold the exact rate is at least `10 / y > 164 / 2 ^ 53` short of it. -/
theorem le_toRat_pyRate_iff {p : ℕ} (hp : mulInt (trueDiv p 10) 100 = 10 * p)
    (hy : y ≤ 2 ^ 48) (h : x ≤ y) :
    10 * (p : ℚ) ≤ (pyRate x y).toRat ↔ 10 * (p : ℚ) ≤ x / y * 100 := by
  rcases Nat.eq_zero_or_pos y with rfl | hy0
  · simp
  have hy' : (0 : ℚ) < y := by exact_mod_cast hy0
  constructor
  · intro hle
    by_contra hlt
    have hlt := lt_of_not_le hlt
    rw [div_mul_eq_mul_div, div_lt_iff₀ hy'] at hlt
    have hxy : 10 * x + 1 ≤ p * y := by
      have : 10 * x < p * y := by exact_mod_cast (by linarith only [hlt] : (10 * x : ℚ) < p * y)
      omega
    have hkey : (x : ℚ) / y * 100 + 10 / y ≤ 10 * p := by
      rw [div_mul_eq_mul_div, div_add_div_same, div_le_iff₀ hy']
      have : (10 * x + 1 : ℚ) ≤ p * y := by exact_mod_cast hxy
      linarith only [this]
    have hsmall : (164 : ℚ) / 2 ^ 53 < 10 / y := by
      rw [div_lt_div_iff₀ (by positivity) hy']
      have : (y : ℚ) ≤ 2 ^ 48 := by exact_mod_cast hy
      linarith only [this]
    linarith only [(abs_le.1 (abs_toRat_pyRate_sub_le h)).2, hle, hkey, hsmall]
  · intro hle
    rw [div_mul_eq_mul_div, le_div_iff₀ hy'] at hle
    have hq : ((p : ℕ) : ℚ) / ((10 : ℕ) : ℚ) ≤ x / y := by
      rw [div_le_div_iff₀ (by norm_num) hy']; push_cast; linarith only [hle]
    have := roundBinary64_mono (mul_le_mul_of_nonneg_right (roundBinary64_mono hq)
      (show (0 : ℚ) ≤ ((100 : ℤ) : ℚ) by norm_num))
    rwa [← trueDiv, ← mulInt, hp, Int.cast_ofNat, ← toRat_pyRate_of_pos hy0] at this

end Rate

/-! ## Fixed-point formatting -/

/-- The digits `format(v, ".{prec}f")` prints, read as one integer: `v * 10 ^ prec` rounded half
to even, on the exact value of `v`. -/
def fixedDigits (prec : ℕ) (v : ℚ) : ℤ := rneInt (v * 10 ^ prec)

/-- The text of `n / 10 ^ prec`: the decimal digits of `n`, padded with zeros to `prec + 1`
digits, with a point before the last `prec` (and none when `prec` is `0`). -/
def fixedText (prec n : ℕ) : String :=
  let ds := Nat.toDigits 10 n
  let ds := List.replicate (prec + 1 - ds.length) '0' ++ ds
  if prec = 0 then String.mk ds
  else String.mk (ds.take (ds.length - prec)) ++ "." ++ String.mk (ds.drop (ds.length - prec))

/-- `format(v, ".{prec}f")` of a `float`: a minus sign for a negative value, then the digits. -/
def formatFixed (prec : ℕ) (v : ℚ) : String :=
  (if v < 0 then "-" else "") ++ fixedText prec (fixedDigits prec v).natAbs

/-- `format(v, ".{prec}f")` of a number; an `int` is converted to a `float` first. -/
def PyNum.formatFixed (prec : ℕ) (v : PyNum) : String := PyFloat.formatFixed prec v.toFloat

example : fixedText 2 7778 = "77.78" ∧ fixedText 1 5 = "0.5" ∧ fixedText 2 10000 = "100.00" := by
  decide

/-- The printed digits are within half a unit of the last decimal of `v`. -/
lemma abs_fixedDigits_sub_le (prec : ℕ) (v : ℚ) :
    |(fixedDigits prec v : ℚ) / 10 ^ prec - v| ≤ 1 / (2 * 10 ^ prec) := by
  have h10 : (0 : ℚ) < 10 ^ prec := by positivity
  have hd : (fixedDigits prec v : ℚ) / 10 ^ prec - v =
      -((v * 10 ^ prec - fixedDigits prec v) / 10 ^ prec) := by
    field_simp; ring
  rw [hd, abs_neg, abs_div, abs_of_pos h10, ← div_div]
  exact div_le_div_of_nonneg_right (abs_sub_rneInt_le_half _) h10.le

lemma fixedDigits_mono (prec : ℕ) : Monotone (fixedDigits prec) := fun _ _ h =>
  rneInt_mono (mul_le_mul_of_nonneg_right h (by positivity))

lemma fixedDigits_nonneg {prec : ℕ} {v : ℚ} (hv : 0 ≤ v) : 0 ≤ fixedDigits prec v := by
  have h0 : fixedDigits prec 0 = 0 := by
    rw [fixedDigits, zero_mul]; exact rneInt_eq_of_abs_lt (by norm_num)
  exact h0 ▸ fixedDigits_mono prec hv

/-- A non-negative value prints as the text of its digits. -/
lemma formatFixed_eq_fixedText {prec : ℕ} {v : ℚ} (hv : 0 ≤ v) :
    formatFixed prec v = fixedText prec (fixedDigits prec v).toNat := by
  rw [formatFixed, if_neg (not_lt.2 hv), String.empty_append]
  congr 1
  have := @fixedDigits_nonneg prec v hv
  omega

/-- The digits of an integer are the integer, shifted. -/
lemma fixedDigits_natCast (prec n : ℕ) : fixedDigits prec n = n * 10 ^ prec :=
  rneInt_eq_of_abs_lt (by push_cast; norm_num)

/-- At most `e` digits print in at most `e + 1` characters, the point included. -/
lemma length_fixedText_le {prec n e : ℕ} (hp : 0 < prec) (he : prec < e) (hn : n < 10 ^ e) :
    (fixedText prec n).length ≤ e + 1 := by
  have hd : (Nat.toDigits 10 n).length ≤ e := Nat.toDigitsCore_length 10 (by norm_num) _ n e hn
    (by omega)
  have hdot : ".".length = 1 := rfl
  simp only [fixedText, if_neg hp.ne', String.length_append, String.length_mk, List.length_take,
    List.length_drop, List.length_append, List.length_replicate, hdot]
  omega

/-- A rate prints as the text of its digits. -/
lemma formatFixed_pyRate (prec x y : ℕ) :
    (pyRate x y).formatFixed prec =
      fixedText prec (fixedDigits prec (pyRate x y).toRat).toNat := by
  rw [PyNum.formatFixed, toFloat_pyRate, formatFixed_eq_fixedText toRat_pyRate_nonneg]

end PyFloat

end SecurityCompliance
