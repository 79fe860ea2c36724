import SecurityCompliance.Python.Float

/-!
# `float.__repr__` and reading a number text back

`json.dumps` writes a `float` with `float.__repr__`.  CPython's repr is David Gay's `dtoa` in
mode 0 followed by `format_float_short` with the code `'r'`:

* `_Py_dg_dtoa(x, 0, ...)` returns the fewest significant decimal digits that read back as `x`.
  It generates the digits of `x` one by one and stops at the first count `n` where cutting
  after the `n`-th digit, or adding one in that place, gives a decimal inside the rounding
  interval of `x`.  When both do, it keeps the nearer one, and on a tie the even last digit
  (`reprCandidate`, `shortestDigits`).  Trailing zeros are dropped.
* `format_float_short` writes the digits with the decimal point `decpt` places after their
  start.  It uses an exponent when `decpt ≤ -4` or `16 < decpt`, and adds `.0` to a whole
  number (`formatShort`).

Reading a number text back, `float(text)` is the binary64 value nearest the decimal the text
writes (`floatOfText`).  The main result is the round trip: for every binary64 value `x`,
`floatOfText (floatRepr x) = x` (`floatOfText_floatRepr`).  It rests on one fact about rounding:
a decimal within `|x| / 2 ^ 54` of a binary64 value `x` reads back as `x`
(`roundBinary64_eq_of_abs_sub_lt`), so that seventeen digits always suffice and the search is
total.

`float('nan')`, the infinities and `-0.0` are left out with overflow: the values modelled are
the exact rationals of finite binary64 numbers, and the scripts only write rates in `[0, 100]`.
-/

namespace SecurityCompliance

namespace PyFloat

/-! ## Reading back a value near a binary64 number -/

/-- A binary64 value is its significand on the grid of its own last place. -/
lemma rneInt_mul_zpow_ulpExp {x : ℚ} (hx : IsBinary64 x) :
    (rneInt (x / 2 ^ ulpExp x) : ℚ) * 2 ^ ulpExp x = x :=
  roundBinary64_eq_self hx

/-- **Spacing.** Two different multiples of `2 ^ u` are `2 ^ u` apart at least. -/
lemma add_zpow_le_of_lt {u a b : ℤ} (h : (a : ℚ) * 2 ^ u < b * 2 ^ u) :
    (a : ℚ) * 2 ^ u + 2 ^ u ≤ b * 2 ^ u := by
  have hu : (0 : ℚ) < 2 ^ u := by positivity
  have hab : a + 1 ≤ b := Int.cast_lt.1 (lt_of_mul_lt_mul_right h hu.le)
  calc (a : ℚ) * 2 ^ u + 2 ^ u = ((a + 1 : ℤ) : ℚ) * 2 ^ u := by push_cast; ring
    _ ≤ b * 2 ^ u := mul_le_mul_of_nonneg_right (by exact_mod_cast hab) hu.le

/-- A power of two above the last place `2 ^ u` is a multiple of it. -/
lemma zpow_eq_intCast_mul {u j : ℤ} (h : u ≤ j) :
    (2 : ℚ) ^ j = ((2 ^ (j - u).toNat : ℤ) : ℚ) * 2 ^ u := by
  rw [Int.cast_pow, Int.cast_two, ← zpow_natCast, Int.toNat_of_nonneg (by omega),
    ← zpow_add₀ two_ne_zero, sub_add_cancel]

/-- Powers of two over powers of two compare by their exponents. -/
lemma two_zpow_div_le {j k : ℤ} {m n : ℕ} (h : j - m ≤ k - n) :
    (2 : ℚ) ^ j / 2 ^ m ≤ 2 ^ k / 2 ^ n := by
  rw [← zpow_natCast, ← zpow_natCast, ← zpow_sub₀ two_ne_zero, ← zpow_sub₀ two_ne_zero]
  exact zpow_le_zpow_right₀ one_le_two h

/-- **On the grid of `d`**: a multiple of the last place of `d` closer than half of it is the
value `d` rounds to. -/
lemma roundBinary64_eq_of_grid {d : ℚ} (n : ℤ) (h : |d - n * 2 ^ ulpExp d| < 2 ^ ulpExp d / 2) :
    roundBinary64 d = n * 2 ^ ulpExp d := by
  have hu : (0 : ℚ) < 2 ^ ulpExp d := by positivity
  rw [scale_abs_sub] at h
  rw [roundBinary64, rneInt_eq_of_abs_lt (n := n) (lt_of_mul_lt_mul_left (by linarith) hu.le)]

/-- **Spacing around a power of two.** A binary64 value below `2 ^ j`, `j` above its last
place, is a last place short of it, and one above is a last place past it. -/
lemma zpow_spacing {x : ℚ} (hx : IsBinary64 x) {j : ℤ} (hj : ulpExp x ≤ j) :
    (|x| < 2 ^ j → |x| + 2 ^ ulpExp x ≤ 2 ^ j) ∧
      (2 ^ j < |x| → 2 ^ j + 2 ^ ulpExp x ≤ |x|) := by
  have hax : |x| = ((|rneInt (x / 2 ^ ulpExp x)| : ℤ) : ℚ) * 2 ^ ulpExp x :=
    calc |x| = |(rneInt (x / 2 ^ ulpExp x) : ℚ) * 2 ^ ulpExp x| := by
          rw [rneInt_mul_zpow_ulpExp hx]
      _ = _ := by rw [abs_mul, abs_of_pos (by positivity : (0 : ℚ) < 2 ^ ulpExp x), Int.cast_abs]
  rw [hax, zpow_eq_intCast_mul hj]
  exact ⟨add_zpow_le_of_lt, add_zpow_le_of_lt⟩

/-- The binade of a non-zero binary64 value lies above its last place. -/
lemma ulpExp_le_log {x : ℚ} (hx : IsBinary64 x) (hx0 : x ≠ 0) : ulpExp x ≤ Int.log 2 |x| := by
  have hxa := rneInt_mul_zpow_ulpExp hx
  have ha : rneInt (x / 2 ^ ulpExp x) ≠ 0 := fun h =>
    hx0 (by rw [← hxa, h, Int.cast_zero, zero_mul])
  have hu : (0 : ℚ) < 2 ^ ulpExp x := by positivity
  have h1 : (2 : ℚ) ^ ulpExp x ≤ |x| :=
    calc (2 : ℚ) ^ ulpExp x ≤ |(rneInt (x / 2 ^ ulpExp x) : ℚ)| * 2 ^ ulpExp x :=
          le_mul_of_one_le_left hu.le (by rw [← Int.cast_abs]; exact_mod_cast Int.one_le_abs ha)
      _ = |x| := by rw [← abs_of_pos hu, ← abs_mul, abs_of_pos hu, hxa]
  exact (Int.zpow_le_iff_le_log one_lt_two (abs_pos.2 hx0)).1 (by exact_mod_cast h1)

/-- **Reading back.** A value within `|x| / 2 ^ 54` of a binary64 value `x` rounds to `x`.  It
lies in the binade `[2 ^ K, 2 ^ (K + 1))` of `x`, on the same grid, or just below a power of two
`x = 2 ^ K`, on a grid twice as fine; in both cases `x` is the grid point within half a step. -/
theorem roundBinary64_eq_of_abs_sub_lt {x d : ℚ} (hx : IsBinary64 x)
    (h : |d - x| < |x| / 2 ^ 54) : roundBinary64 d = x := by
  have hx0 : x ≠ 0 := by rintro rfl; simp at h; linarith [abs_nonneg d]
  set K := Int.log 2 |x|
  have hK1 : (2 : ℚ) ^ K ≤ |x| := zpow_log_le_abs hx0
  have huK := ulpExp_le_log hx hx0
  have hK2 := (zpow_spacing hx (show ulpExp x ≤ K + 1 by omega)).1 (abs_lt_zpow_log_add_one x)
  have hu : ulpExp x = max (K - 52) (-1074) := rfl
  have hKu : (2 : ℚ) ^ (K + 1) / 2 ^ 54 ≤ 2 ^ ulpExp x / 2 := by
    have := two_zpow_div_le (j := K + 1) (m := 54) (k := ulpExp x) (n := 1) (by push_cast; omega)
    rwa [pow_one] at this
  have hdx := abs_le.1 (abs_abs_sub_abs_le_abs_sub d x)
  have hx54 : |x| / 2 ^ 54 < 2 ^ (K + 1) / 2 ^ 54 :=
    div_lt_div_of_pos_right (abs_lt_zpow_log_add_one x) (by positivity)
  have hd0 : 0 < |d| := by linarith only [hdx.1, h, abs_pos.2 hx0]
  -- the binade of `d` is that of `x` or the one below
  have hL1 : Int.log 2 |d| < K + 1 := by
    refine (Int.lt_zpow_iff_log_lt one_lt_two hd0).1 ?_
    push_cast
    linarith only [hdx.2, h, hx54, hK2, hKu, (by positivity : (0 : ℚ) < 2 ^ ulpExp x)]
  have hL2 : K - 1 ≤ Int.log 2 |d| := by
    refine (Int.zpow_le_iff_le_log one_lt_two hd0).1 ?_
    have h2 : (2 : ℚ) ^ (K - 1) = 2 ^ K / 2 := by rw [zpow_sub₀ two_ne_zero, zpow_one]
    push_cast; rw [h2]
    linarith only [hdx.1, h, hK1, abs_nonneg x]
  have hud : ulpExp d = max (Int.log 2 |d| - 52) (-1074) := rfl
  have hxa := rneInt_mul_zpow_ulpExp hx
  rcases (show Int.log 2 |d| = K ∨ Int.log 2 |d| = K - 1 by omega) with hL | hL
  · -- the binade of `x`: the same grid
    have he : ulpExp d = ulpExp x := by rw [hud, hL, hu]
    calc roundBinary64 d = rneInt (x / 2 ^ ulpExp x) * 2 ^ ulpExp d :=
          roundBinary64_eq_of_grid _ (by rw [he, hxa]; linarith)
      _ = x := by rw [he, hxa]
  · -- below a power of two `x`: the grid of `d` is one step finer, or the same
    have hxK : |x| = 2 ^ K := by
      refine le_antisymm (not_lt.1 fun hlt => ?_) hK1
      have hsp := (zpow_spacing hx huK).2 hlt
      have hdK : |d| < 2 ^ K := by
        have := (Int.lt_zpow_iff_log_lt one_lt_two hd0).2 (show Int.log 2 |d| < K by omega)
        exact_mod_cast this
      have h52 : (2 : ℚ) ^ K ≤ 2 ^ 52 * 2 ^ ulpExp x := by
        rw [← zpow_natCast, ← zpow_add₀ two_ne_zero]
        exact zpow_le_zpow_right₀ one_le_two (by push_cast; omega)
      linarith [(by positivity : (0 : ℚ) < 2 ^ ulpExp x)]
    have hw : ulpExp d ≤ ulpExp x := by rw [hud, hu, hL]; omega
    have hxw : x = ((rneInt (x / 2 ^ ulpExp x) * 2 ^ (ulpExp x - ulpExp d).toNat : ℤ) : ℚ) *
        2 ^ ulpExp d := by
      rw [Int.cast_mul, mul_assoc, ← zpow_eq_intCast_mul hw, hxa]
    have hw2 := two_zpow_div_le (j := K) (m := 54) (k := ulpExp d) (n := 1)
      (by rw [hud, hL]; push_cast; omega)
    rw [pow_one, ← hxK] at hw2
    calc roundBinary64 d
        = ((rneInt (x / 2 ^ ulpExp x) * 2 ^ (ulpExp x - ulpExp d).toNat : ℤ) : ℚ) *
          2 ^ ulpExp d := roundBinary64_eq_of_grid _ (by rw [← hxw]; exact lt_of_lt_of_le h hw2)
      _ = x := hxw.symm

/-! ## Symmetry -/

/-- **Round half to even is odd.**  A tie `⌊q⌋ + 1 / 2` negates to the tie above
`-⌊q⌋ - 1`, whose parity is the other one; any other `q` has one integer nearer than a half,
and its negation is the one nearest `-q`. -/
lemma rneInt_neg (q : ℚ) : rneInt (-q) = -rneInt q := by
  have h0 : (⌊q⌋ : ℚ) ≤ q := Int.floor_le q
  have h1 : q < ⌊q⌋ + 1 := Int.lt_floor_add_one q
  by_cases htie : q - ⌊q⌋ = 1 / 2
  · have hf : ⌊-q⌋ = -⌊q⌋ - 1 := by
      rw [Int.floor_eq_iff]; push_cast; constructor <;> linarith
    have h2 : -q - ((-⌊q⌋ - 1 : ℤ) : ℚ) = 1 / 2 := by push_cast; linarith
    unfold rneInt
    rw [hf, h2, htie]
    simp only [lt_self_iff_false, false_or, eq_self_iff_true, true_and]
    split_ifs <;> omega
  · obtain ⟨n, hn⟩ : ∃ n : ℤ, |q - n| < 1 / 2 := by
      rcases lt_or_gt_of_ne htie with h | h
      · exact ⟨⌊q⌋, abs_lt.2 ⟨by linarith, h⟩⟩
      · exact ⟨⌊q⌋ + 1, abs_lt.2 ⟨by push_cast; linarith, by push_cast; linarith⟩⟩
    rw [rneInt_eq_of_abs_lt hn, rneInt_eq_of_abs_lt (n := -n)]
    rwa [Int.cast_neg, neg_sub_neg, abs_sub_comm]

lemma ulpExp_neg (x : ℚ) : ulpExp (-x) = ulpExp x := by rw [ulpExp, ulpExp, abs_neg]

/-- Rounding commutes with negation, so `float("-" + t)` is `-float(t)`. -/
lemma roundBinary64_neg (x : ℚ) : roundBinary64 (-x) = -roundBinary64 x := by
  rw [roundBinary64, roundBinary64, ulpExp_neg, neg_div, rneInt_neg, Int.cast_neg, neg_mul]

/-! ## The shortest digits -/

/-- `_Py_dg_dtoa` in mode 0 at `n` significant digits, for `x > 0`: the last place is `10 ^ q`
with `q = ⌊log₁₀ x⌋ + 1 - n`, and the candidates are the two multiples of it around `x`, the
digits `⌊x / 10 ^ q⌋` and the integer above.  The nearer one, ties to an even last digit, is
taken when it reads back as `x`, else the other one when it does. -/
def reprCandidate (x : ℚ) (n : ℕ) : Option (ℤ × ℤ) :=
  let q := Int.log 10 x + 1 - n
  let near := rneInt (x / 10 ^ q)
  let far := 2 * ⌊x / 10 ^ q⌋ + 1 - near
  if roundBinary64 (near * 10 ^ q) = x then some (near, q)
  else if roundBinary64 (far * 10 ^ q) = x then some (far, q)
  else none

/-- `_Py_dg_dtoa(x, 0, ...)` for `x > 0`: the digits and the exponent of their last place, at
the fewest digits that read back.  Seventeen always do (`roundBinary64_seventeen`), so the
default, the seventeen-digit candidate, is never reached. -/
def shortestDigits (x : ℚ) : ℤ × ℤ :=
  ((List.range 17).findSome? fun i => reprCandidate x (i + 1)).getD
    (rneInt (x / 10 ^ (Int.log 10 x - 16)), Int.log 10 x - 16)

lemma reprCandidate_spec {x : ℚ} {n : ℕ} {r : ℤ × ℤ} (h : reprCandidate x n = some r) :
    roundBinary64 (r.1 * 10 ^ r.2) = x := by
  dsimp only [reprCandidate] at h
  split at h
  · cases h; assumption
  · split at h
    · cases h; assumption
    · cases h

/-- The distance of a multiple of a step `s` to `x`, in steps. -/
lemma abs_mul_sub_eq {s : ℚ} (hs : 0 < s) (n x : ℚ) : |n * s - x| = s * |x / s - n| := by
  have e : x - n * s = s * (x / s - n) := by rw [mul_sub, mul_div_cancel₀ _ hs.ne', mul_comm s n]
  rw [abs_sub_comm, e, abs_mul, abs_of_pos hs]

/-- **Seventeen digits suffice**: the multiple of `10 ^ (⌊log₁₀ x⌋ - 16)` nearest `x` is
within `x / (2 · 10 ^ 16)` of `x`, less than `x / 2 ^ 54`. -/
lemma roundBinary64_seventeen {x : ℚ} (hx : IsBinary64 x) (hpos : 0 < x) :
    roundBinary64 (rneInt (x / 10 ^ (Int.log 10 x - 16)) * 10 ^ (Int.log 10 x - 16)) = x := by
  refine roundBinary64_eq_of_abs_sub_lt hx ?_
  set q := Int.log 10 x - 16
  have h10 : (0 : ℚ) < 10 ^ q := by positivity
  have hE : (10 : ℚ) ^ q * 10 ^ 16 ≤ x := by
    have := @Int.zpow_log_le_self ℚ _ _ 10 x (by norm_num) hpos
    push_cast at this
    calc (10 : ℚ) ^ q * 10 ^ 16 = 10 ^ Int.log 10 x := by
          rw [← zpow_natCast, ← zpow_add₀ (by norm_num)]; congr 1; push_cast; ring
      _ ≤ x := this
  calc |(rneInt (x / 10 ^ q) : ℚ) * 10 ^ q - x|
      = 10 ^ q * |x / 10 ^ q - rneInt (x / 10 ^ q)| := abs_mul_sub_eq h10 _ _
    _ ≤ 10 ^ q * (1 / 2) := mul_le_mul_of_nonneg_left (abs_sub_rneInt_le_half _) h10.le
    _ < |x| / 2 ^ 54 := by rw [abs_of_pos hpos]; linarith

/-- **The digits read back**: `m · 10 ^ q` rounds to `x`. -/
theorem roundBinary64_shortestDigits {x : ℚ} (hx : IsBinary64 x) (hpos : 0 < x) :
    roundBinary64 ((shortestDigits x).1 * 10 ^ (shortestDigits x).2) = x := by
  unfold shortestDigits
  cases h : (List.range 17).findSome? fun i => reprCandidate x (i + 1) with
  | none => exact roundBinary64_seventeen hx hpos
  | some r =>
    obtain ⟨i, -, hi⟩ := List.exists_of_findSome?_eq_some h
    exact reprCandidate_spec hi

lemma pos_shortestDigits {x : ℚ} (hx : IsBinary64 x) (hpos : 0 < x) :
    0 < (shortestDigits x).1 := by
  by_contra h
  have hle : ((shortestDigits x).1 : ℚ) * 10 ^ (shortestDigits x).2 ≤ 0 :=
    mul_nonpos_of_nonpos_of_nonneg (by exact_mod_cast not_lt.1 h) (by positivity)
  have := roundBinary64_mono hle
  rw [roundBinary64_shortestDigits hx hpos, roundBinary64_zero] at this
  linarith

/-! ## Writing the digits -/

/-- `"%+.02d"`: an exponent with its sign and at least two digits. -/
def exponentText (e : ℤ) : List Char :=
  (if e < 0 then '-' else '+') ::
    (if e.natAbs < 10 then '0' :: Nat.toDigits 10 e.natAbs else Nat.toDigits 10 e.natAbs)

/-- `format_float_short` with the code `'r'` and `Py_DTSF_ADD_DOT_0`: the digits `ds` with the
decimal point `decpt` places after their start, as `d.ddde±XX` when `decpt ≤ -4` or
`16 < decpt`, else positionally, padded with zeros, with `.0` after a whole number. -/
def formatShort (ds : List Char) (decpt : ℤ) : List Char :=
  if decpt ≤ -4 ∨ 16 < decpt then
    ds.take 1 ++ (if 1 < ds.length then '.' :: ds.drop 1 else []) ++ 'e' :: exponentText (decpt - 1)
  else if decpt ≤ 0 then '0' :: '.' :: List.replicate (-decpt).toNat '0' ++ ds
  else if decpt.toNat < ds.length then ds.take decpt.toNat ++ '.' :: ds.drop decpt.toNat
  else ds ++ List.replicate (decpt.toNat - ds.length) '0' ++ ['.', '0']

/-- The digits without their trailing zeros. -/
def stripZeros (ds : List Char) : List Char := (ds.reverse.dropWhile (· == '0')).reverse

/-- `float.__repr__` of the binary64 value `x`: `0.0`, or the sign and the shortest digits of
`|x|`, their decimal point `decpt` places after their start. -/
def floatRepr (x : ℚ) : String :=
  if x = 0 then "0.0"
  else
    let ds := Nat.toDigits 10 (shortestDigits |x|).1.toNat
    ⟨(if x < 0 then ['-'] else []) ++
      formatShort (stripZeros ds) (ds.length + (shortestDigits |x|).2)⟩

/-! ## Reading a number text -/

/-- The value of a decimal digit. -/
def digitValue (c : Char) : ℕ := c.toNat - '0'.toNat

/-- The number a run of decimal digits writes. -/
def digitsValue (ds : List Char) : ℕ := ds.foldl (fun n c => 10 * n + digitValue c) 0

/-- The exponent marks. -/
def isExpChar (c : Char) : Bool := c == 'e' || c == 'E'

/-- The exponent after its mark, with an optional sign. -/
def exponentValue : List Char → ℤ
  | '-' :: ds => -(digitsValue ds : ℤ)
  | '+' :: ds => digitsValue ds
  | ds => digitsValue ds

/-- The exact value of an unsigned number text `digits(.digits)?([eE][-+]?digits)?`: the
digits of its mantissa, scaled by its exponent less the length of its fraction. -/
def unsignedValue (cs : List Char) : ℚ :=
  let mant := cs.takeWhile fun c => !isExpChar c
  let fp := (mant.dropWhile (· != '.')).drop 1
  digitsValue (mant.takeWhile (· != '.') ++ fp) *
    10 ^ (exponentValue ((cs.dropWhile fun c => !isExpChar c).drop 1) - fp.length)

/-- The exact value of a number text with an optional minus sign. -/
def decimalValue (cs : List Char) : ℚ :=
  if cs.head? = some '-' then -unsignedValue cs.tail else unsignedValue cs

/-- `float(text)`: the binary64 value nearest the decimal the text writes. -/
def floatOfText (t : String) : ℚ := roundBinary64 (decimalValue t.data)

/-- `int(text)` of the digits of a number text with an optional minus sign. -/
def intOfText (cs : List Char) : ℤ :=
  if cs.head? = some '-' then -(digitsValue cs.tail : ℤ) else digitsValue cs

/-! ## Digits -/

lemma foldl_digitsValue (n : ℕ) (ds : List Char) :
    ds.foldl (fun n c => 10 * n + digitValue c) n = n * 10 ^ ds.length + digitsValue ds := by
  induction ds generalizing n with
  | nil => simp [digitsValue]
  | cons c ds ih =>
    rw [digitsValue, List.foldl_cons, List.foldl_cons, ih, ih (10 * 0 + digitValue c),
      List.length_cons, pow_succ]
    ring

@[simp] lemma digitsValue_append (a b : List Char) :
    digitsValue (a ++ b) = digitsValue a * 10 ^ b.length + digitsValue b := by
  rw [digitsValue, List.foldl_append, foldl_digitsValue]; rfl

@[simp] lemma digitsValue_nil : digitsValue [] = 0 := rfl

@[simp] lemma digitsValue_singleton (c : Char) : digitsValue [c] = digitValue c := by
  simp [digitsValue]

/-- Leading and trailing runs of zeros write nothing. -/
lemma digitsValue_eq_zero {l : List Char} (h : ∀ c ∈ l, c = '0') : digitsValue l = 0 := by
  induction l with
  | nil => rfl
  | cons c l ih =>
    rw [← List.singleton_append, digitsValue_append,
      ih fun d hd => h d (List.mem_cons_of_mem c hd),
      digitsValue_singleton, h c (List.mem_cons_self c l)]
    simp [digitValue]

lemma digitValue_digitChar : ∀ d < 10, digitValue (Nat.digitChar d) = d := by decide

lemma isDigit_digitChar : ∀ d < 10, (Nat.digitChar d).isDigit := by decide

lemma digitChar_ne_zero : ∀ d < 10, d ≠ 0 → Nat.digitChar d ≠ '0' := by decide

/-- `Nat.toDigits` is the reversed list of `Nat.digits`, written as characters. -/
lemma toDigitsCore_eq {f n : ℕ} (ds : List Char) (hn : 0 < n) (hf : n < f) :
    Nat.toDigitsCore 10 f n ds = ((Nat.digits 10 n).map Nat.digitChar).reverse ++ ds := by
  induction f generalizing n ds with
  | zero => omega
  | succ f ih =>
    simp only [Nat.toDigitsCore]
    rw [Nat.digits_def' (by norm_num) hn]
    split_ifs with h
    · simp [h]
    · rw [ih _ (Nat.pos_of_ne_zero h) (by omega)]; simp

lemma toDigits_eq {m : ℕ} (hm : 0 < m) :
    Nat.toDigits 10 m = ((Nat.digits 10 m).map Nat.digitChar).reverse := by
  rw [Nat.toDigits, toDigitsCore_eq [] hm (by omega), List.append_nil]

lemma digitsValue_reverse_map {L : List ℕ} (hL : ∀ d ∈ L, d < 10) :
    digitsValue (L.map Nat.digitChar).reverse = Nat.ofDigits 10 L := by
  induction L with
  | nil => rfl
  | cons d L ih =>
    rw [List.map_cons, List.reverse_cons, digitsValue_append,
      ih fun e he => hL e (List.mem_cons_of_mem d he), Nat.ofDigits_cons, digitsValue_singleton,
      digitValue_digitChar d (hL d (List.mem_cons_self d L)), List.length_singleton, pow_one]
    ring

/-- **The digits of `m` write `m`.** -/
@[simp] lemma digitsValue_toDigits (m : ℕ) : digitsValue (Nat.toDigits 10 m) = m := by
  rcases Nat.eq_zero_or_pos m with rfl | hm
  · rfl
  · rw [toDigits_eq hm, digitsValue_reverse_map fun d hd => Nat.digits_lt_base (by norm_num) hd,
      Nat.ofDigits_digits]

lemma isDigit_of_mem_toDigits {m : ℕ} {c : Char} (h : c ∈ Nat.toDigits 10 m) : c.isDigit := by
  rcases Nat.eq_zero_or_pos m with rfl | hm
  · have h0 : Nat.toDigits 10 0 = ['0'] := rfl
    rw [h0, List.mem_singleton] at h
    rw [h]; rfl
  · rw [toDigits_eq hm, List.mem_reverse, List.mem_map] at h
    obtain ⟨d, hd, rfl⟩ := h
    exact isDigit_digitChar d (Nat.digits_lt_base (by norm_num) hd)

/-- The first digit of a positive number is not `0`. -/
lemma toDigits_eq_cons {m : ℕ} (hm : 0 < m) :
    ∃ c cs, Nat.toDigits 10 m = c :: cs ∧ c ≠ '0' := by
  have hne : Nat.digits 10 m ≠ [] := Nat.digits_ne_nil_iff_ne_zero.2 hm.ne'
  have hlast := Nat.getLast_digit_ne_zero 10 hm.ne'
  have hlt := Nat.digits_lt_base (b := 10) (by norm_num) (List.getLast_mem hne)
  refine ⟨_, ((Nat.digits 10 m).dropLast.map Nat.digitChar).reverse, ?_,
    digitChar_ne_zero _ hlt hlast⟩
  conv_lhs => rw [toDigits_eq hm, ← List.dropLast_append_getLast hne]
  simp

/-- **Trailing zeros** scale the value of what is left of the digits. -/
lemma digitsValue_stripZeros (ds : List Char) :
    ∃ k, ds = stripZeros ds ++ List.replicate k '0' ∧
      digitsValue ds = digitsValue (stripZeros ds) * 10 ^ k := by
  obtain ⟨k, hk⟩ : ∃ k, ds.reverse.takeWhile (· == '0') = List.replicate k '0' :=
    ⟨_, List.eq_replicate_iff.2 ⟨rfl, fun b hb => by simpa using List.mem_takeWhile_imp hb⟩⟩
  have hds : ds = stripZeros ds ++ List.replicate k '0' := by
    conv_lhs =>
      rw [← List.reverse_reverse ds, ← List.takeWhile_append_dropWhile (· == '0') ds.reverse]
    rw [List.reverse_append, hk, List.reverse_replicate, stripZeros]
  refine ⟨k, hds, ?_⟩
  conv_lhs => rw [hds]
  rw [digitsValue_append, digitsValue_eq_zero fun c hc => List.eq_of_mem_replicate hc,
    List.length_replicate, add_zero]

/-- Stripping zeros keeps a first digit that is not `0`. -/
lemma stripZeros_cons {c : Char} (hc : c ≠ '0') (cs : List Char) :
    ∃ t, stripZeros (c :: cs) = c :: t := by
  unfold stripZeros
  rw [List.reverse_cons, List.dropWhile_append]
  have hc' : ([c].dropWhile (· == '0')) = [c] := by simp [hc]
  split
  · exact ⟨[], by rw [hc']; rfl⟩
  · exact ⟨_, by rw [List.reverse_append]; rfl⟩

/-! ## The value of the text -/

lemma bne_dot_of_isDigit {c : Char} (h : c.isDigit) : (c != '.') = true :=
  bne_iff_ne.2 (by rintro rfl; exact absurd h (by decide))

lemma not_isExpChar_of_isDigit {c : Char} (h : c.isDigit) : (!isExpChar c) = true := by
  have h1 : c ≠ 'e' := by rintro rfl; exact absurd h (by decide)
  have h2 : c ≠ 'E' := by rintro rfl; exact absurd h (by decide)
  simp [isExpChar, h1, h2]

section Text

variable {ip fp : List Char} (hip : ∀ c ∈ ip, c.isDigit) (hfp : ∀ c ∈ fp, c.isDigit)

include hip hfp in
/-- A text `ip.fp`, followed by nothing or by an exponent, writes the digits `ip fp` scaled by
the exponent less the length of the fraction. -/
lemma unsignedValue_point (tail : List Char) (htail : tail = [] ∨ ∃ et, tail = 'e' :: et) :
    unsignedValue (ip ++ '.' :: (fp ++ tail)) =
      digitsValue (ip ++ fp) * 10 ^ (exponentValue (tail.drop 1) - fp.length) := by
  have hi : ∀ c ∈ ip, (!isExpChar c) = true := fun c hc => not_isExpChar_of_isDigit (hip c hc)
  have hf : ∀ c ∈ fp, (!isExpChar c) = true := fun c hc => not_isExpChar_of_isDigit (hfp c hc)
  have hd : ∀ c ∈ ip, (c != '.') = true := fun c hc => bne_dot_of_isDigit (hip c hc)
  have ht : tail.takeWhile (fun c => !isExpChar c) = [] ∧
      tail.dropWhile (fun c => !isExpChar c) = tail := by
    rcases htail with rfl | ⟨et, rfl⟩ <;> simp [isExpChar]
  have hdot : (!isExpChar '.') = true := rfl
  have hm : (ip ++ '.' :: (fp ++ tail)).takeWhile (fun c => !isExpChar c) = ip ++ '.' :: fp := by
    rw [List.takeWhile_append_of_pos hi,
      List.takeWhile_cons_of_pos (p := fun c => !isExpChar c) hdot,
      List.takeWhile_append_of_pos hf, ht.1, List.append_nil]
  have hr : (ip ++ '.' :: (fp ++ tail)).dropWhile (fun c => !isExpChar c) = tail := by
    rw [List.dropWhile_append_of_pos hi,
      List.dropWhile_cons_of_pos (p := fun c => !isExpChar c) hdot,
      List.dropWhile_append_of_pos hf, ht.2]
  have hi' : (ip ++ '.' :: fp).takeWhile (· != '.') = ip := by
    rw [List.takeWhile_append_of_pos hd, List.takeWhile_cons_of_neg (p := (· != '.')) (by decide),
      List.append_nil]
  have hf' : ((ip ++ '.' :: fp).dropWhile (· != '.')).drop 1 = fp := by
    rw [List.dropWhile_append_of_pos hd, List.dropWhile_cons_of_neg (p := (· != '.')) (by decide)]
    rfl
  simp only [unsignedValue, hm, hr, hi', hf']

include hip in
/-- A text `ip` followed by an exponent writes the digits `ip` scaled by the exponent. -/
lemma unsignedValue_exp (et : List Char) :
    unsignedValue (ip ++ 'e' :: et) = digitsValue ip * 10 ^ exponentValue et := by
  have hi : ∀ c ∈ ip, (!isExpChar c) = true := fun c hc => not_isExpChar_of_isDigit (hip c hc)
  have hd : ∀ c ∈ ip, (c != '.') = true := fun c hc => bne_dot_of_isDigit (hip c hc)
  have he : ¬(!isExpChar 'e') = true := by decide
  have hm : (ip ++ 'e' :: et).takeWhile (fun c => !isExpChar c) = ip := by
    rw [List.takeWhile_append_of_pos hi, List.takeWhile_cons_of_neg (p := fun c => !isExpChar c) he,
      List.append_nil]
  have hr : (ip ++ 'e' :: et).dropWhile (fun c => !isExpChar c) = 'e' :: et := by
    rw [List.dropWhile_append_of_pos hi, List.dropWhile_cons_of_neg (p := fun c => !isExpChar c) he]
  have hi' : ip.takeWhile (· != '.') = ip := List.takeWhile_eq_self_iff.2 hd
  have hf' : ip.dropWhile (· != '.') = [] := List.dropWhile_eq_nil_iff.2 hd
  simp only [unsignedValue, hm, hr, hi', hf', List.drop_nil, List.append_nil, List.length_nil,
    Nat.cast_zero, sub_zero]
  rfl

end Text

lemma exponentValue_exponentText (e : ℤ) : exponentValue (exponentText e) = e := by
  have hz : ∀ k : ℕ, digitsValue ('0' :: Nat.toDigits 10 k) = k := fun k => by
    rw [← List.singleton_append, digitsValue_append, digitsValue_toDigits]; simp [digitValue]
  unfold exponentText
  split_ifs <;> simp only [exponentValue, hz, digitsValue_toDigits] <;> omega

/-- **The value of the text** of `format_float_short`: the digits, scaled so that the decimal
point stands `decpt` places after their start. -/
lemma unsignedValue_formatShort {ds : List Char} (hds : ∀ c ∈ ds, c.isDigit) (hne : ds ≠ [])
    (decpt : ℤ) :
    unsignedValue (formatShort ds decpt) = digitsValue ds * 10 ^ (decpt - ds.length) := by
  have htake : ∀ k, ∀ c ∈ ds.take k, c.isDigit := fun k c hc =>
    hds c (List.mem_of_mem_take hc)
  have hdrop : ∀ k, ∀ c ∈ ds.drop k, c.isDigit := fun k c hc =>
    hds c (List.mem_of_mem_drop hc)
  have hzeros : ∀ k, ∀ c ∈ List.replicate k '0', c.isDigit := fun k c hc => by
    rw [List.eq_of_mem_replicate hc]; rfl
  have hlen : 1 ≤ ds.length := List.length_pos.2 hne
  have hz0 : digitValue '0' = 0 := rfl
  unfold formatShort
  split_ifs with h1 h2 h3 h4
  · -- `d.ddde±XX`
    rw [List.append_assoc, List.cons_append,
      unsignedValue_point (htake 1) (hdrop 1) _ (Or.inr ⟨_, rfl⟩), List.take_append_drop]
    simp only [List.drop_succ_cons, List.drop_zero, exponentValue_exponentText, List.length_drop]
    congr 2; omega
  · -- `de±XX`
    have hds1 : ds.take 1 = ds := List.take_of_length_le (by omega)
    rw [List.append_nil, unsignedValue_exp (htake 1), hds1, exponentValue_exponentText]
    congr 2; omega
  · -- `0.000ddd`
    have e : '0' :: '.' :: List.replicate (-decpt).toNat '0' ++ ds =
        ['0'] ++ '.' :: ((List.replicate (-decpt).toNat '0' ++ ds) ++ []) := by simp
    rw [e, unsignedValue_point (by simp) (fun c hc => ?_) [] (Or.inl rfl)]
    · simp only [digitsValue_append, digitsValue_singleton, hz0,
        digitsValue_eq_zero fun c hc => List.eq_of_mem_replicate hc, List.length_append,
        List.length_replicate, List.drop_nil, exponentValue, digitsValue_nil, zero_mul, zero_add]
      congr 2; omega
    · rcases List.mem_append.1 hc with hc | hc
      exacts [hzeros _ c hc, hds c hc]
  · -- `ddd.ddd`
    rw [← List.append_nil (ds.drop _), unsignedValue_point (htake _) (hdrop _) [] (Or.inl rfl),
      List.take_append_drop]
    simp only [List.drop_nil, exponentValue, digitsValue_nil, List.length_drop]
    push_cast; congr 2; omega
  · -- `ddd000.0`
    have e : ds ++ List.replicate (decpt.toNat - ds.length) '0' ++ ['.', '0'] =
        (ds ++ List.replicate (decpt.toNat - ds.length) '0') ++ '.' :: (['0'] ++ []) := by simp
    rw [e, unsignedValue_point (fun c hc => ?_) (by simp) [] (Or.inl rfl)]
    · simp only [digitsValue_append, digitsValue_singleton, hz0,
        digitsValue_eq_zero fun c hc => List.eq_of_mem_replicate hc, List.length_singleton,
        List.length_replicate, List.drop_nil, exponentValue, digitsValue_nil, add_zero]
      push_cast
      rw [zpow_neg_one, mul_inv_cancel_right₀ (by norm_num : (10 : ℚ) ≠ 0), ← zpow_natCast]
      congr 2; omega
    · rcases List.mem_append.1 hc with hc | hc
      exacts [hds c hc, hzeros _ c hc]

/-! ## The round trip -/

lemma isBinary64_abs {x : ℚ} (hx : IsBinary64 x) : IsBinary64 |x| := by
  obtain ⟨m, e, hm, he, rfl⟩ := hx
  exact ⟨|m|, e, by rwa [abs_abs], he, by
    rw [abs_mul, abs_of_pos (by positivity : (0 : ℚ) < 2 ^ e), Int.cast_abs]⟩

lemma isDigit_of_mem_stripZeros {n : ℕ} {c : Char} (h : c ∈ stripZeros (Nat.toDigits 10 n)) :
    c.isDigit := by
  obtain ⟨k, hk, -⟩ := digitsValue_stripZeros (Nat.toDigits 10 n)
  exact isDigit_of_mem_toDigits (by rw [hk]; exact List.mem_append_left _ h)

/-- The shortest digits of a positive number start with a digit other than `0`. -/
lemma stripZeros_toDigits_eq_cons {n : ℕ} (hn : 0 < n) :
    ∃ c t, stripZeros (Nat.toDigits 10 n) = c :: t ∧ c.isDigit ∧ c ≠ '0' := by
  obtain ⟨c, cs, hD, hc⟩ := toDigits_eq_cons hn
  obtain ⟨t, ht⟩ := stripZeros_cons hc cs
  exact ⟨c, t, by rw [hD, ht],
    isDigit_of_mem_toDigits (by rw [hD]; exact List.mem_cons_self c cs), hc⟩

/-- The text of the digits of `n > 0`, the last one in the place `10 ^ q`, writes `n · 10 ^ q`. -/
lemma unsignedValue_formatShort_toDigits {n : ℕ} (hn : 0 < n) (q : ℤ) :
    unsignedValue (formatShort (stripZeros (Nat.toDigits 10 n)) ((Nat.toDigits 10 n).length + q)) =
      n * 10 ^ q := by
  obtain ⟨k, hk, hval⟩ := digitsValue_stripZeros (Nat.toDigits 10 n)
  obtain ⟨c, t, hct, -, -⟩ := stripZeros_toDigits_eq_cons hn
  rw [unsignedValue_formatShort (fun c hc => isDigit_of_mem_stripZeros hc)
    (by rw [hct]; exact List.cons_ne_nil c t)]
  have hlen : (Nat.toDigits 10 n).length = (stripZeros (Nat.toDigits 10 n)).length + k := by
    conv_lhs => rw [hk]
    rw [List.length_append, List.length_replicate]
  rw [digitsValue_toDigits] at hval
  have he : (((stripZeros (Nat.toDigits 10 n)).length + k : ℕ) : ℤ) + q -
      (stripZeros (Nat.toDigits 10 n)).length = k + q := by push_cast; ring
  rw [hlen, he, zpow_add₀ (by norm_num), zpow_natCast, ← mul_assoc]
  conv_rhs => rw [hval]
  push_cast; rfl

/-- The first character `floatRepr` writes after the sign is a digit. -/
lemma head?_formatShort {c : Char} (hc : c.isDigit) (t : List Char) (decpt : ℤ) :
    ∀ d ∈ (formatShort (c :: t) decpt).head?, d.isDigit := by
  intro d hd
  unfold formatShort at hd
  split_ifs at hd with h1 h2 h3 h4
  · simp at hd; rwa [← hd]
  · simp at hd; rwa [← hd]
  · simp at hd; rw [← hd]; rfl
  · obtain ⟨j, hj⟩ : ∃ j, decpt.toNat = j + 1 := ⟨decpt.toNat - 1, by omega⟩
    rw [hj] at hd; simp at hd; rwa [← hd]
  · simp at hd; rwa [← hd]

/-- **What the text writes**: `floatRepr x` writes the shortest digits of `|x|`, with the sign
of `x`. -/
lemma decimalValue_floatRepr {x : ℚ} (hx : IsBinary64 x) (hx0 : x ≠ 0) :
    decimalValue (floatRepr x).data =
      (if x < 0 then -1 else 1) * ((shortestDigits |x|).1 * 10 ^ (shortestDigits |x|).2) := by
  have hm := pos_shortestDigits (isBinary64_abs hx) (abs_pos.2 hx0)
  have hn : 0 < (shortestDigits |x|).1.toNat := by omega
  have hU := unsignedValue_formatShort_toDigits hn (shortestDigits |x|).2
  rw [show (((shortestDigits |x|).1.toNat : ℕ) : ℚ) = (shortestDigits |x|).1 by
    exact_mod_cast Int.toNat_of_nonneg hm.le] at hU
  obtain ⟨c, t, hct, hc, -⟩ := stripZeros_toDigits_eq_cons hn
  have hhead := head?_formatShort hc t
    ((Nat.toDigits 10 (shortestDigits |x|).1.toNat).length + (shortestDigits |x|).2)
  rw [← hct] at hhead
  unfold floatRepr
  rw [if_neg hx0]
  split_ifs with hneg
  · show decimalValue ('-' :: formatShort _ _) = _
    simp only [decimalValue, List.head?_cons, List.tail_cons, eq_self_iff_true, if_true, hU,
      neg_one_mul]
  · show decimalValue (formatShort _ _) = _
    rw [decimalValue, if_neg (show ¬(formatShort _ _).head? = some '-' from
      fun h => absurd (hhead '-' h) (by decide)), hU, one_mul]

/-- **`float(repr(x)) == x`**: reading back the text `float.__repr__` writes gives the binary64
value. -/
theorem floatOfText_floatRepr {x : ℚ} (hx : IsBinary64 x) : floatOfText (floatRepr x) = x := by
  rcases eq_or_ne x 0 with rfl | hx0
  · have h0 : decimalValue (floatRepr 0).data = 0 := by
      rw [floatRepr, if_pos rfl, decimalValue, if_neg (by decide),
        show "0.0".data = ['0'] ++ '.' :: (['0'] ++ []) from rfl,
        unsignedValue_point (by decide) (by decide) [] (Or.inl rfl),
        digitsValue_eq_zero (by decide), Nat.cast_zero, zero_mul]
    rw [floatOfText, h0, roundBinary64_zero]
  · have hr := roundBinary64_shortestDigits (isBinary64_abs hx) (abs_pos.2 hx0)
    rw [floatOfText, decimalValue_floatRepr hx hx0]
    split_ifs with hneg
    · rw [neg_one_mul, roundBinary64_neg, hr, abs_of_neg hneg, neg_neg]
    · rw [one_mul, hr, abs_of_nonneg (not_lt.1 hneg)]

/-- **`int(str(n)) == n`**. -/
lemma intOfText_toString (n : ℤ) : intOfText (toString n).data = n := by
  have hd : ∀ m : ℕ, (Nat.toDigits 10 m).head? ≠ some '-' := fun m h =>
    absurd (isDigit_of_mem_toDigits (List.mem_of_mem_head? h)) (by decide)
  cases n with
  | ofNat m =>
    show intOfText (Nat.toDigits 10 m) = m
    rw [intOfText, if_neg (hd m), digitsValue_toDigits]
  | negSucc m =>
    show intOfText ('-' :: Nat.toDigits 10 (m + 1)) = Int.negSucc m
    simp only [intOfText, List.head?_cons, eq_self_iff_true, if_true, List.tail_cons,
      digitsValue_toDigits, Int.negSucc_eq]
    push_cast; ring

/-! ## Numbers in a JSON text -/

/-- `json.dumps` of a number: `int.__repr__` or `float.__repr__`. -/
def PyNum.jsonText : PyNum → String
  | .int n => toString n
  | .float x => floatRepr x

/-- The number `json.loads` builds from the text of a number: `float(text)` when the text has a
fraction or an exponent, `int(text)` otherwise. -/
def numberOfText (t : String) : PyNum :=
  if t.data.any (fun c => c == '.' || isExpChar c) then .float (floatOfText t)
  else .int (intOfText t.data)

/-- A number whose `float` is a binary64 value, as every `float` of the scripts is. -/
def PyNum.IsFinite : PyNum → Prop
  | .int _ => True
  | .float x => IsBinary64 x

lemma any_formatShort (ds : List Char) (decpt : ℤ) :
    (formatShort ds decpt).any (fun c => c == '.' || isExpChar c) = true := by
  unfold formatShort
  split_ifs <;> simp [isExpChar]

lemma any_toDigits (m : ℕ) : (Nat.toDigits 10 m).any (fun c => c == '.' || isExpChar c) = false :=
  List.any_eq_false.2 fun c hc => by
    have hc := isDigit_of_mem_toDigits hc
    simp only [Bool.or_eq_true, not_or]
    exact ⟨by simpa using bne_dot_of_isDigit hc, by simpa using not_isExpChar_of_isDigit hc⟩

/-- **Numbers read back**: `json.loads` makes of the text `json.dumps` writes for a number the
same number, an `int` for an `int` and the same `float` for a `float`. -/
theorem numberOfText_jsonText {v : PyNum} (hv : v.IsFinite) : numberOfText v.jsonText = v := by
  cases v with
  | int n =>
    have h : (toString n).data.any (fun c => c == '.' || isExpChar c) = false := by
      cases n with
      | ofNat m => exact any_toDigits m
      | negSucc m =>
        show ('-' :: Nat.toDigits 10 (m + 1)).any _ = false
        rw [List.any_cons, any_toDigits]; rfl
    rw [PyNum.jsonText, numberOfText, if_neg (by rw [h]; decide), intOfText_toString]
  | float x =>
    have h : (floatRepr x).data.any (fun c => c == '.' || isExpChar c) = true := by
      unfold floatRepr
      split_ifs
      · rfl
      all_goals
        dsimp only
        rw [List.any_append, any_formatShort, Bool.or_true]
    rw [PyNum.jsonText, numberOfText, if_pos h, floatOfText_floatRepr hv]

end PyFloat

end SecurityCompliance
