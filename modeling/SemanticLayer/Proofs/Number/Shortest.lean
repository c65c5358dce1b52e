import SemanticLayer.Proofs.Number.Rounding

/-!
# Shortest decimals are read back

The decimal that is written for a number lies in the interval of the number: the search takes a
decimal only if it does, and the finest grid is so fine that the nearest of its decimals always
does. A decimal in the interval is read as the number, however its digits are written.
-/

namespace SemanticLayer.Binary64

variable {x : Binary64} {v : ℚ}

/-! ### Powers of two and ten -/

lemma ten_zpow_neg_le_two_zpow_neg {a b : ℕ} (h : 2 ^ b ≤ 10 ^ a) :
    (10 : ℚ) ^ (-a : ℤ) ≤ 2 ^ (-b : ℤ) := by
  rw [zpow_neg, zpow_neg, zpow_natCast, zpow_natCast]
  exact inv_anti₀ (by positivity) (by exact_mod_cast h)

/-! ### Decimals in an interval -/

/-- The value of a decimal. -/
def Decimal.value (d : Decimal) : ℚ := d.digits * 10 ^ d.exponent

lemma Interval.contains_of_holds {i : Interval} {n : ℕ} {k : ℤ} (hi : 0 < i.denominator)
    (h : i.holds n k) : i.Contains (n * 10 ^ k) := by
  have hi' : (0 : ℚ) < i.denominator := by exact_mod_cast hi
  have hs : (0 : ℚ) < 10 ^ (-k).toNat := by positivity
  -- both sides of a test, over the denominator and the power of ten
  have hscale (a : ℕ) : ((a * Nat.pow 10 (-k).toNat : ℕ) : ℚ) / 10 ^ (-k).toNat / i.denominator =
      a / i.denominator := by
    push_cast [Nat.pow_eq]
    field_simp
  have hvalue : ((n * Nat.pow 10 k.toNat * i.denominator : ℕ) : ℚ) / 10 ^ (-k).toNat /
      i.denominator = n * 10 ^ k := by
    rw [← pow_toNat_div_pow_toNat 10 k]
    push_cast [Nat.pow_eq]
    field_simp
  unfold Interval.Contains
  rw [← hscale i.low, ← hscale i.high, ← hvalue, div_le_div_iff_of_pos_right hi',
    div_le_div_iff_of_pos_right hs, div_le_div_iff_of_pos_right hi',
    div_le_div_iff_of_pos_right hs, div_lt_div_iff_of_pos_right hi',
    div_lt_div_iff_of_pos_right hs, div_lt_div_iff_of_pos_right hi',
    div_lt_div_iff_of_pos_right hs]
  simp only [holds] at h
  split_ifs at h ⊢ with hclosed
  · simp only [Bool.and_eq_true, decide_eq_true_eq] at h
    exact ⟨Nat.cast_le.2 h.1, Nat.cast_le.2 h.2⟩
  · simp only [Bool.and_eq_true, decide_eq_true_eq] at h
    exact ⟨Nat.cast_lt.2 h.1, Nat.cast_lt.2 h.2⟩

/-- What is closer to a number than a quarter of a unit lies in its interval. -/
lemma contains_of_near (hm : 0 < x.mantissa)
    (h : |v - x.mantissa * 2 ^ x.exponent| < 1 / 4 * 2 ^ x.exponent) : x.interval.Contains v := by
  have hunit : (0 : ℚ) < 2 ^ x.exponent := by positivity
  obtain ⟨hl, hh⟩ := abs_lt.1 h
  have hlow : x.mantissa - x.stepBelow < v / 2 ^ x.exponent := by
    rw [lt_div_iff₀ hunit]
    nlinarith [le_stepBelow (x := x)]
  have hhigh : v / 2 ^ x.exponent < x.mantissa + 1 / 2 := by
    rw [div_lt_iff₀ hunit]
    nlinarith
  exact (contains_iff hm).2 ⟨⟨hlow.le, hhigh.le⟩, .inr ⟨hlow, hhigh⟩⟩

/-! ### The search -/

/-- The nearest integer is at most one half away. -/
lemma abs_divRound_sub_le {n d : ℕ} (hd : 0 < d) : |(divRound n d : ℚ) - n / d| ≤ 1 / 2 := by
  have hd' : (0 : ℚ) < d := by exact_mod_cast hd
  have hdiv : d * (n / d) + n % d = n := Nat.div_add_mod n d
  have hmod : n % d < d := Nat.mod_lt n hd
  have hsucc : d * (n / d + 1) = d * (n / d) + d := Nat.mul_add_one d (n / d)
  have hbounds : 2 * (d * divRound n d) ≤ 2 * n + d ∧ 2 * n ≤ 2 * (d * divRound n d) + d := by
    simp only [divRound]
    split_ifs <;> omega
  have hlow : (2 * (d * divRound n d) : ℚ) ≤ 2 * n + d := by exact_mod_cast hbounds.1
  have hhigh : (2 * n : ℚ) ≤ 2 * (d * divRound n d) + d := by exact_mod_cast hbounds.2
  rw [abs_le, sub_div' hd'.ne', le_div_iff₀ hd', div_le_iff₀ hd']
  constructor <;> linarith

/-- The nearest decimal of a grid is at most half of the grid's step away. -/
lemma abs_nearest_sub_le (x : Binary64) (k : ℤ) :
    |(divRound (x.interval.value * Nat.pow 10 (-k).toNat)
        (x.interval.denominator * Nat.pow 10 k.toNat) : ℚ) * 10 ^ k -
      x.mantissa * 2 ^ x.exponent| ≤ 1 / 2 * 10 ^ k := by
  have hstep : (0 : ℚ) < 10 ^ k := by positivity
  have hden : (0 : ℚ) < x.interval.denominator := by exact_mod_cast denominator_pos x
  have hpos : 0 < x.interval.denominator * Nat.pow 10 k.toNat :=
    Nat.mul_pos (denominator_pos x) (Nat.pow_pos (by decide))
  have hround := abs_divRound_sub_le (n := x.interval.value * Nat.pow 10 (-k).toNat) hpos
  have hratio : ((x.interval.value * Nat.pow 10 (-k).toNat : ℕ) : ℚ) /
      (x.interval.denominator * Nat.pow 10 k.toNat : ℕ) =
      x.mantissa * 2 ^ x.exponent / 10 ^ k := by
    rw [← value_div_denominator, ← pow_toNat_div_pow_toNat 10 k]
    push_cast [Nat.pow_eq]
    field_simp
  rw [hratio] at hround
  rw [← mul_le_mul_iff_of_pos_right hstep] at hround
  rwa [← abs_of_pos hstep, ← abs_mul, sub_mul, abs_of_pos hstep, div_mul_cancel₀ _ hstep.ne']
    at hround

/-- What the search finds lies in the interval, if the finest grid has a step below half a unit. -/
lemma contains_shortestFrom (hm : 0 < x.mantissa) (fuel : ℕ) (k : ℤ)
    (hk : (10 : ℚ) ^ (k - fuel) < 1 / 2 * 2 ^ x.exponent) :
    x.interval.Contains (shortestFrom x.interval fuel k).value := by
  induction fuel generalizing k with
  | zero =>
    refine contains_of_near hm ((abs_nearest_sub_le x k).trans_lt ?_)
    simp only [Nat.cast_zero, sub_zero] at hk
    linarith
  | succ fuel ih =>
    have hnext : (10 : ℚ) ^ (k - 1 - fuel) < 1 / 2 * 2 ^ x.exponent := by
      rwa [sub_sub, add_comm (1 : ℤ), ← Nat.cast_succ]
    simp only [shortestFrom]
    cases hgrid : onGrid? x.interval k with
    | none => exact ih (k - 1) hnext
    | some d =>
      simp only [onGrid?] at hgrid
      split_ifs at hgrid with hnearest hother hother
      all_goals
        obtain rfl := Option.some.inj hgrid
        exact Interval.contains_of_holds (denominator_pos x) ‹_›

/-- The search for the first digit stays below the number. -/
lemma pow_leadingExponent_le {n d : ℕ} (hd : 0 < d) (fuel : ℕ) (k : ℤ)
    (h : (10 : ℚ) ^ k ≤ n / d) : (10 : ℚ) ^ leadingExponent n d fuel k ≤ n / d := by
  have hd' : (0 : ℚ) < d := by exact_mod_cast hd
  induction fuel generalizing k with
  | zero => exact h
  | succ fuel ih =>
    simp only [leadingExponent]
    split_ifs with hnext
    · refine ih (k + 1) ?_
      have hs : (0 : ℚ) < 10 ^ (-(k + 1)).toNat := by positivity
      rw [← pow_toNat_div_pow_toNat, div_le_div_iff₀ hs hd', mul_comm _ (d : ℚ)]
      exact_mod_cast hnext
    · exact h

lemma Decimal.value_strip (digits : ℕ) (exponent : ℤ) (fuel : ℕ) :
    (Decimal.strip digits exponent fuel).value = digits * 10 ^ exponent := by
  induction fuel generalizing digits exponent with
  | zero => rfl
  | succ fuel ih =>
    simp only [Decimal.strip]
    split_ifs with h
    · have hten : (digits : ℚ) = 10 * (digits / 10 : ℕ) := by
        have : digits = 10 * (digits / 10) := by omega
        exact_mod_cast this
      rw [ih, hten, zpow_add_one₀ (by norm_num)]
      ring
    · rfl

/-- The least of all positive numbers is not below the place that the search starts at. -/
lemma pow_le_value (hm : 0 < x.mantissa) : (10 : ℚ) ^ (-325 : ℤ) ≤ x.mantissa * 2 ^ x.exponent := by
  have hm' : (1 : ℚ) ≤ x.mantissa := by exact_mod_cast hm
  calc (10 : ℚ) ^ (-325 : ℤ) ≤ 2 ^ (-1074 : ℤ) := ten_zpow_neg_le_two_zpow_neg (by decide +kernel)
    _ ≤ 2 ^ x.exponent := zpow_le_zpow_right₀ (by norm_num) x.canonical.2.1
    _ ≤ x.mantissa * 2 ^ x.exponent := le_mul_of_one_le_left (by positivity) hm'

/-- The shortest decimal of a number lies in its interval. -/
theorem contains_shortest (hm : 0 < x.mantissa) : x.interval.Contains x.shortest.value := by
  have hunit : (0 : ℚ) < 2 ^ x.exponent := by positivity
  have hlead := pow_leadingExponent_le (denominator_pos x) 640 (-325)
    (by rw [value_div_denominator]; exact pow_le_value hm)
  rw [value_div_denominator] at hlead
  have hfine : (10 : ℚ) ^ (leadingExponent x.interval.value x.interval.denominator 640 (-325) -
      (17 : ℕ)) < 1 / 2 * 2 ^ x.exponent := by
    have hmle := mantissa_add_one_le x
    rw [zpow_sub₀ (by norm_num), div_lt_iff₀ (by positivity)]
    norm_num at hmle ⊢
    nlinarith
  have hfound := contains_shortestFrom hm 17 _ hfine
  unfold shortest
  rw [if_neg hm.ne', Decimal.value_strip]
  exact hfound

/-! ### Reading a decimal -/

lemma le_of_contains (hm : 0 < x.mantissa) (h : x.interval.Contains v) :
    (2 : ℚ) ^ (-1075 : ℤ) ≤ v := by
  have hunit : (0 : ℚ) < 2 ^ x.exponent := by positivity
  have hm' : (1 : ℚ) ≤ x.mantissa := by exact_mod_cast hm
  have hlow := ((contains_iff hm).1 h).1.1
  rw [le_div_iff₀ hunit] at hlow
  calc (2 : ℚ) ^ (-1075 : ℤ) = 1 / 2 * 2 ^ (-1074 : ℤ) := by
        rw [show (-1075 : ℤ) = -1074 - 1 by norm_num, zpow_sub_one₀ (by norm_num)]
        ring
    _ ≤ 1 / 2 * 2 ^ x.exponent := by
      have := zpow_le_zpow_right₀ (show (1 : ℚ) ≤ 2 by norm_num) x.canonical.2.1
      linarith
    _ ≤ v := by nlinarith [stepBelow_le (x := x)]

lemma lt_of_contains (hm : 0 < x.mantissa) (h : x.interval.Contains v) :
    v < (2 : ℚ) ^ (1024 : ℤ) := by
  have hunit : (0 : ℚ) < 2 ^ x.exponent := by positivity
  have hhigh := ((contains_iff hm).1 h).1.2
  have hmle := mantissa_add_one_le x
  rw [div_le_iff₀ hunit] at hhigh
  calc v ≤ (x.mantissa + 1 / 2) * 2 ^ x.exponent := hhigh
    _ < 2 * 2 ^ (52 : ℤ) * 2 ^ x.exponent := by
      refine mul_lt_mul_of_pos_right ?_ hunit
      linarith
    _ = 2 ^ (53 + x.exponent) := by
      rw [zpow_add₀ (by norm_num)]
      norm_num
    _ ≤ 2 ^ (1024 : ℤ) := by
      refine zpow_le_zpow_right₀ (by norm_num) ?_
      have := x.canonical.2.2.1
      omega

/-- Every third binary digit makes at most one decimal digit. -/
lemma lt_pow_log2_div_three (n : ℕ) : (n : ℚ) < 10 ^ ((n.log2 / 3 : ℕ) + 1 : ℤ) := by
  have hlog : n < 2 ^ (n.log2 + 1) := Nat.lt_log2_self
  have hle : (2 : ℕ) ^ (n.log2 + 1) ≤ 2 ^ (3 * (n.log2 / 3 + 1)) :=
    Nat.pow_le_pow_right (by decide) (by omega)
  have hpow : (2 : ℕ) ^ (3 * (n.log2 / 3 + 1)) ≤ 10 ^ (n.log2 / 3 + 1) := by
    rw [pow_mul]
    exact Nat.pow_le_pow_left (by decide) _
  exact_mod_cast hlog.trans_le (hle.trans hpow)

lemma two_pow_le_ten_pow : 2 ^ 1024 ≤ 10 ^ 400 := by decide +kernel

/-- Decimals in the interval of a number are read as the number. -/
theorem ofDecimal?_of_contains {digits : ℕ} {exponent : ℤ} (hm : 0 < x.mantissa)
    (h : x.interval.Contains (digits * 10 ^ exponent)) :
    ofDecimal? x.negative digits exponent = some x := by
  have hpow : (0 : ℚ) < 10 ^ exponent := by positivity
  have hdigits : 0 < digits := by
    have := (mul_pos_iff_of_pos_right hpow).1 (pos_of_contains hm h)
    exact_mod_cast this
  have hsmall : ¬exponent > 400 := by
    intro hlarge
    have hone : (1 : ℚ) ≤ digits := by exact_mod_cast hdigits
    have hle : (2 : ℚ) ^ (1024 : ℤ) ≤ digits * 10 ^ exponent :=
      calc (2 : ℚ) ^ (1024 : ℤ) ≤ 10 ^ (400 : ℤ) := by exact_mod_cast two_pow_le_ten_pow
        _ ≤ 10 ^ exponent := zpow_le_zpow_right₀ (by norm_num) hlarge.le
        _ ≤ digits * 10 ^ exponent := le_mul_of_one_le_left hpow.le hone
    exact absurd (lt_of_contains hm h) (not_lt.2 hle)
  have hlarge : ¬((digits.log2 / 3 : ℕ) + exponent < -400) := by
    intro hscale
    have hlt : digits * 10 ^ exponent < (2 : ℚ) ^ (-1075 : ℤ) :=
      calc (digits : ℚ) * 10 ^ exponent < 10 ^ ((digits.log2 / 3 : ℕ) + 1 : ℤ) * 10 ^ exponent :=
            mul_lt_mul_of_pos_right (lt_pow_log2_div_three digits) hpow
        _ = 10 ^ ((digits.log2 / 3 : ℕ) + 1 + exponent) := (zpow_add₀ (by norm_num) _ _).symm
        _ ≤ 10 ^ (-400 : ℤ) := zpow_le_zpow_right₀ (by norm_num) (by omega)
        _ ≤ 2 ^ (-1075 : ℤ) := ten_zpow_neg_le_two_zpow_neg (by decide +kernel)
    exact absurd (le_of_contains hm h) (not_le.2 hlt)
  have hratio : ((digits * Nat.pow 10 exponent.toNat : ℕ) : ℚ) /
      (Nat.pow 10 (-exponent).toNat : ℕ) = digits * 10 ^ exponent := by
    rw [← pow_toNat_div_pow_toNat 10 exponent]
    push_cast [Nat.pow_eq]
    ring
  unfold ofDecimal?
  rw [if_neg hdigits.ne', if_neg hsmall, if_neg (by push_cast at hlarge; exact hlarge)]
  exact ofRatio?_of_contains hm (Nat.pow_pos (by decide)) (by rwa [hratio])

end SemanticLayer.Binary64
