import Mathlib.Algebra.Order.Field.Power
import Mathlib.Tactic.FieldSimp
import Mathlib.Tactic.Linarith
import Mathlib.Tactic.NormNum
import Mathlib.Tactic.Positivity
import Mathlib.Tactic.Ring
import SemanticLayer.Number.Binary64

/-!
# Rounding to binary64 numbers

A ratio is rounded to a number exactly when it lies in the interval of the number. The interval
reaches half a unit of the last place to both sides, and its bounds belong to it when the mantissa
is even; below a power of two the unit is half as large.
-/

namespace SemanticLayer.Binary64

/-! ### Powers -/

/-- A power with an integer as exponent, by two powers of which one is trivial. -/
lemma pow_toNat_div_pow_toNat (b : ℚ) (e : ℤ) : b ^ e.toNat / b ^ (-e).toNat = b ^ e := by
  obtain ⟨k, rfl | rfl⟩ := e.eq_nat_or_neg
  · simp
  · simp

/-! ### Division -/

/-- The integer `q` is nearest to `v`, and even if there are two nearest ones. -/
structure IsNearest (v : ℚ) (q : ℕ) : Prop where
  low  : q - 1 / 2 ≤ v
  high : v ≤ q + 1 / 2
  tie  : q % 2 = 0 ∨ (q - 1 / 2 < v ∧ v < q + 1 / 2)

/-- What `IsNearest` says about a ratio, in integers. -/
lemma IsNearest.bounds {n d q : ℕ} (hd : 0 < d) (h : IsNearest (n / d) q) :
    (2 * (d * q) ≤ 2 * n + d ∧ 2 * n ≤ 2 * (d * q) + d) ∧
      (q % 2 = 0 ∨ (2 * (d * q) < 2 * n + d ∧ 2 * n < 2 * (d * q) + d)) := by
  have hd' : (0 : ℚ) < d := by exact_mod_cast hd
  refine ⟨⟨?_, ?_⟩, h.tie.imp_right ?_⟩
  · have hlow := h.low
    rw [le_div_iff₀ hd'] at hlow
    have : (2 * (d * q) : ℚ) ≤ 2 * n + d := by linarith
    exact_mod_cast this
  · have hhigh := h.high
    rw [div_le_iff₀ hd'] at hhigh
    have : (2 * n : ℚ) ≤ 2 * (d * q) + d := by linarith
    exact_mod_cast this
  · rintro ⟨hlow, hhigh⟩
    rw [lt_div_iff₀ hd'] at hlow
    rw [div_lt_iff₀ hd'] at hhigh
    have hlow' : (2 * (d * q) : ℚ) < 2 * n + d := by linarith
    have hhigh' : (2 * n : ℚ) < 2 * (d * q) + d := by linarith
    exact ⟨by exact_mod_cast hlow', by exact_mod_cast hhigh'⟩

lemma divRound_eq {n d q : ℕ} (hd : 0 < d) (h : IsNearest (n / d) q) : divRound n d = q := by
  obtain ⟨⟨hlow, hhigh⟩, htie⟩ := h.bounds hd
  have hdiv : d * (n / d) + n % d = n := Nat.div_add_mod n d
  have hmod : n % d < d := Nat.mod_lt n hd
  -- the quotient is `q`, or `q - 1` when the remainder is at least half of the divisor
  have hquot : n / d = q ∨ n / d + 1 = q := by
    have hlt : n / d < q + 1 := by
      rw [Nat.div_lt_iff_lt_mul hd]
      nlinarith
    have hge : q ≤ n / d + 1 := by
      by_contra hcon
      have : d * (n / d + 2) ≤ d * q := Nat.mul_le_mul_left d (by omega)
      nlinarith
    omega
  have htwice : 2 * (n % d) + 2 * (d * (n / d)) = 2 * n := by omega
  rcases hquot with hq | hq
  · rw [hq] at htwice
    simp only [divRound, hq]
    split_ifs <;> omega
  · have hmul : d * q = d * (n / d) + d := by rw [← hq, Nat.mul_add, Nat.mul_one]
    simp only [divRound]
    split_ifs <;> omega

lemma scaledRound_eq {n d q : ℕ} {e : ℤ} (hd : 0 < d) (h : IsNearest (n / d / 2 ^ e) q) :
    scaledRound n d e = q := by
  refine divRound_eq (Nat.mul_pos hd (Nat.pow_pos (by decide))) ?_
  have hratio : ((n * Nat.pow 2 (-e).toNat : ℕ) : ℚ) / (d * Nat.pow 2 e.toNat : ℕ) =
      n / d / 2 ^ e := by
    rw [← pow_toNat_div_pow_toNat 2 e]
    push_cast [Nat.pow_eq]
    field_simp
  rw [hratio]
  exact h

/-! ### Binades -/

/-- The exponent that the lengths of a ratio's two integers suggest, or one less, puts the ratio
into its binade. -/
def guess (n d : ℕ) : ℤ := (n.log2 : ℤ) - d.log2 - 52

lemma two_zpow_guess {n d : ℕ} (hn : 0 < n) (hd : 0 < d) :
    (2 : ℚ) ^ (guess n d + 51) ≤ n / d ∧ (n / d : ℚ) < 2 ^ (guess n d + 53) := by
  have hd' : (0 : ℚ) < d := by exact_mod_cast hd
  have hnlow : (2 : ℚ) ^ n.log2 ≤ n := by exact_mod_cast Nat.log2_self_le hn.ne'
  have hnhigh : (n : ℚ) < 2 ^ (n.log2 + 1) := by exact_mod_cast Nat.lt_log2_self
  have hdlow : (2 : ℚ) ^ d.log2 ≤ d := by exact_mod_cast Nat.log2_self_le hd.ne'
  have hdhigh : (d : ℚ) < 2 ^ (d.log2 + 1) := by exact_mod_cast Nat.lt_log2_self
  have hscale (i j k : ℕ) (h : (i : ℤ) = guess n d + j + k) :
      (2 : ℚ) ^ (guess n d + j) * 2 ^ k = 2 ^ i := by
    rw [← zpow_natCast, ← zpow_natCast, ← zpow_add₀ (by norm_num), h]
  constructor
  · rw [le_div_iff₀ hd']
    calc (2 : ℚ) ^ (guess n d + 51) * d ≤ 2 ^ (guess n d + 51) * 2 ^ (d.log2 + 1) := by gcongr
      _ = 2 ^ n.log2 := hscale n.log2 51 (d.log2 + 1) (by simp only [guess]; push_cast; omega)
      _ ≤ n := hnlow
  · rw [div_lt_iff₀ hd']
    calc (n : ℚ) < 2 ^ (n.log2 + 1) := hnhigh
      _ = 2 ^ (guess n d + 53) * 2 ^ d.log2 :=
        (hscale (n.log2 + 1) 53 d.log2 (by simp only [guess]; push_cast; omega)).symm
      _ ≤ 2 ^ (guess n d + 53) * d := by gcongr

lemma binade_eq_max {n d : ℕ} (hd : 0 < d) : binade n d =
    max (if (n / d : ℚ) < 2 ^ (guess n d + 52) then guess n d - 1 else guess n d) (-1074) := by
  have hd' : (0 : ℚ) < d := by exact_mod_cast hd
  have hfull : ((fullMantissa : ℕ) : ℚ) = 2 ^ (52 : ℤ) := by norm_num
  have htest :
      n * Nat.pow 2 (-guess n d).toNat < d * Nat.pow 2 (guess n d).toNat * fullMantissa ↔
        (n / d : ℚ) < 2 ^ (guess n d + 52) := by
    rw [zpow_add₀ (by norm_num), ← pow_toNat_div_pow_toNat, div_mul_eq_mul_div,
      div_lt_div_iff₀ hd' (by positivity), ← hfull, mul_comm _ (d : ℚ), ← mul_assoc]
    simp only [Nat.pow_eq]
    exact_mod_cast Iff.rfl
  simp only [binade, ← htest]
  rfl

lemma binade_spec {n d : ℕ} (hn : 0 < n) (hd : 0 < d) :
    -1074 ≤ binade n d ∧ (n / d : ℚ) < 2 ^ (binade n d + 53) ∧
      (binade n d = -1074 ∨ (2 : ℚ) ^ (binade n d + 52) ≤ n / d) := by
  obtain ⟨hlow, hhigh⟩ := two_zpow_guess hn hd
  have hone : (1 : ℚ) ≤ 2 := by norm_num
  rw [binade_eq_max hd]
  by_cases h : (n / d : ℚ) < 2 ^ (guess n d + 52)
  · rw [if_pos h]
    refine ⟨le_max_right _ _, h.trans_le (zpow_le_zpow_right₀ hone (by omega)), ?_⟩
    by_cases hmax : guess n d - 1 ≤ -1074
    · exact .inl (max_eq_right hmax)
    · rw [max_eq_left (by omega)]
      exact .inr (by rwa [show guess n d - 1 + 52 = guess n d + 51 by omega])
  · rw [if_neg h]
    refine ⟨le_max_right _ _, hhigh.trans_le (zpow_le_zpow_right₀ hone (by omega)), ?_⟩
    by_cases hmax : guess n d ≤ -1074
    · exact .inl (max_eq_right hmax)
    · rw [max_eq_left (by omega)]
      exact .inr (not_lt.1 h)

/-- Only one exponent fits a ratio. -/
lemma binade_eq {n d : ℕ} {e : ℤ} (hn : 0 < n) (hd : 0 < d) (he : -1074 ≤ e)
    (hhigh : (n / d : ℚ) < 2 ^ (e + 53)) (hlow : e = -1074 ∨ (2 : ℚ) ^ (e + 52) ≤ n / d) :
    binade n d = e := by
  obtain ⟨hb, hbhigh, hblow⟩ := binade_spec hn hd
  have hle : e ≤ binade n d := by
    obtain rfl | hlow := hlow
    · exact hb
    · have := (zpow_lt_zpow_iff_right₀ (by norm_num)).1 (hlow.trans_lt hbhigh)
      omega
  have hge : binade n d ≤ e := by
    obtain h | hblow := hblow
    · exact h ▸ he
    · have := (zpow_lt_zpow_iff_right₀ (by norm_num)).1 (hblow.trans_lt hhigh)
      omega
  exact le_antisymm hge hle

/-! ### The interval of a number -/

/-- The real lies between the bounds of the interval. -/
def Interval.Contains (i : Interval) (v : ℚ) : Prop :=
  if i.closed then (i.low / i.denominator : ℚ) ≤ v ∧ v ≤ i.high / i.denominator
  else (i.low / i.denominator : ℚ) < v ∧ v < i.high / i.denominator

/-- The part of the unit in the last place that the interval reaches below the number. -/
def stepBelow (x : Binary64) : ℚ :=
  if x.mantissa = fullMantissa ∧ x.exponent ≠ -1074 then 1 / 4 else 1 / 2

variable {x : Binary64} {v : ℚ}

lemma stepBelow_le : x.stepBelow ≤ 1 / 2 := by
  unfold stepBelow
  split_ifs <;> norm_num

lemma le_stepBelow : 1 / 4 ≤ x.stepBelow := by
  unfold stepBelow
  split_ifs <;> norm_num

lemma denominator_pos (x : Binary64) : 0 < x.interval.denominator :=
  Nat.mul_pos (by decide) (Nat.pow_pos (by decide))

/-- A mantissa counted in quarters, over the denominator of the interval. -/
lemma quarters_div_denominator (q : ℕ) :
    ((q * Nat.pow 2 x.exponent.toNat : ℕ) : ℚ) / x.interval.denominator =
      q / 4 * 2 ^ x.exponent := by
  rw [← pow_toNat_div_pow_toNat]
  simp only [interval, Nat.pow_eq]
  push_cast
  field_simp

lemma value_div_denominator :
    (x.interval.value / x.interval.denominator : ℚ) = x.mantissa * 2 ^ x.exponent := by
  have h := quarters_div_denominator (x := x) (4 * x.mantissa)
  simp only [interval] at h ⊢
  rw [h]
  push_cast
  ring

lemma high_div_denominator :
    (x.interval.high / x.interval.denominator : ℚ) = (x.mantissa + 1 / 2) * 2 ^ x.exponent := by
  have h := quarters_div_denominator (x := x) (4 * x.mantissa + 2)
  simp only [interval] at h ⊢
  rw [h]
  push_cast
  ring

lemma low_div_denominator (hm : 0 < x.mantissa) :
    (x.interval.low / x.interval.denominator : ℚ) =
      (x.mantissa - x.stepBelow) * 2 ^ x.exponent := by
  by_cases h : x.mantissa = fullMantissa ∧ x.exponent ≠ -1074
  · have hq := quarters_div_denominator (x := x) (4 * x.mantissa - 1)
    have hlow : x.interval.low = (4 * x.mantissa - 1) * Nat.pow 2 x.exponent.toNat := by
      simp only [interval, if_pos h]
    rw [hlow, hq, stepBelow, if_pos h]
    push_cast [show 1 ≤ 4 * x.mantissa by omega]
    ring
  · have hq := quarters_div_denominator (x := x) (4 * x.mantissa - 2)
    have hlow : x.interval.low = (4 * x.mantissa - 2) * Nat.pow 2 x.exponent.toNat := by
      simp only [interval, if_neg h]
    rw [hlow, hq, stepBelow, if_neg h]
    push_cast [show 2 ≤ 4 * x.mantissa by omega]
    ring

/-- The interval in units of the last place. -/
lemma contains_iff (hm : 0 < x.mantissa) :
    x.interval.Contains v ↔
      (x.mantissa - x.stepBelow ≤ v / 2 ^ x.exponent ∧ v / 2 ^ x.exponent ≤ x.mantissa + 1 / 2) ∧
      (x.mantissa % 2 = 0 ∨
        (x.mantissa - x.stepBelow < v / 2 ^ x.exponent ∧
          v / 2 ^ x.exponent < x.mantissa + 1 / 2)) := by
  have hunit : (0 : ℚ) < 2 ^ x.exponent := by positivity
  have hclosed : x.interval.closed = true ↔ x.mantissa % 2 = 0 := by simp [interval]
  unfold Interval.Contains
  rw [low_div_denominator hm, high_div_denominator]
  by_cases h : x.mantissa % 2 = 0
  · simp [hclosed, h, le_div_iff₀ hunit, div_le_iff₀ hunit]
  · simp only [hclosed, h, if_false, le_div_iff₀ hunit, div_le_iff₀ hunit, lt_div_iff₀ hunit,
      div_lt_iff₀ hunit, false_or]
    exact ⟨fun ⟨hl, hh⟩ => ⟨⟨hl.le, hh.le⟩, hl, hh⟩, And.right⟩

lemma pos_of_contains (hm : 0 < x.mantissa) (h : x.interval.Contains v) : 0 < v := by
  have hunit : (0 : ℚ) < 2 ^ x.exponent := by positivity
  have hlow := ((contains_iff hm).1 h).1.1
  rw [le_div_iff₀ hunit] at hlow
  have hm' : (1 : ℚ) ≤ x.mantissa := by exact_mod_cast hm
  refine lt_of_lt_of_le (mul_pos ?_ hunit) hlow
  linarith [stepBelow_le (x := x)]

lemma num_pos_of_contains {n d : ℕ} (hm : 0 < x.mantissa) (hd : 0 < d)
    (h : x.interval.Contains (n / d)) : 0 < n := by
  have hd' : (0 : ℚ) < d := by exact_mod_cast hd
  exact_mod_cast (div_pos_iff_of_pos_right hd').1 (pos_of_contains hm h)

/-- Rounding may carry into the next binade. -/
lemma ofRatio?_of_pos {negative : Bool} {n d : ℕ} (hn : 0 < n) :
    ofRatio? negative n d =
      match if scaledRound n d (binade n d) = 2 * fullMantissa
        then (fullMantissa, binade n d + 1)
        else (scaledRound n d (binade n d), binade n d) with
      | (m, e) => if h : IsBinary64 m e then some ⟨negative, m, e, h⟩ else none := by
  unfold ofRatio?
  rw [if_neg hn.ne']

lemma ofRatio?_of_rounds {n d q : ℕ} {e : ℤ} (hn : 0 < n) (he : binade n d = e)
    (hq : scaledRound n d e = q)
    (hx : (if q = 2 * fullMantissa then (fullMantissa, e + 1) else (q, e)) =
      (x.mantissa, x.exponent)) :
    ofRatio? x.negative n d = some x := by
  subst he hq
  rw [ofRatio?_of_pos hn, hx]
  exact dif_pos x.canonical

lemma cast_fullMantissa : ((fullMantissa : ℕ) : ℚ) = 2 ^ (52 : ℤ) := by norm_num

lemma mantissa_add_one_le (x : Binary64) : (x.mantissa : ℚ) + 1 ≤ 2 * 2 ^ (52 : ℤ) := by
  have hle : ((x.mantissa + 1 : ℕ) : ℚ) ≤ (2 * fullMantissa : ℕ) :=
    Nat.cast_le.2 (Nat.succ_le_of_lt x.canonical.1)
  rwa [Nat.cast_mul, cast_fullMantissa, Nat.cast_add, Nat.cast_one, Nat.cast_ofNat] at hle

/-- What lies in the interval and in the binade of a number is rounded to it. -/
lemma ofRatio?_of_contains_of_le {n d : ℕ} (hm : 0 < x.mantissa) (hd : 0 < d)
    (h : x.interval.Contains (n / d))
    (hbinade : x.exponent = -1074 ∨ (2 : ℚ) ^ (52 : ℤ) ≤ n / d / 2 ^ x.exponent) :
    ofRatio? x.negative n d = some x := by
  have hn := num_pos_of_contains hm hd h
  have hunit : (0 : ℚ) < 2 ^ x.exponent := by positivity
  have hstep := stepBelow_le (x := x)
  have hmle := mantissa_add_one_le x
  obtain ⟨⟨hlow, hhigh⟩, htie⟩ := (contains_iff hm).1 h
  have hexponent : binade n d = x.exponent := by
    refine binade_eq hn hd x.canonical.2.1 ?_ (hbinade.imp_right fun hle => ?_)
    · rw [add_comm, zpow_add₀ (by norm_num), ← div_lt_iff₀ hunit]
      norm_num at hmle ⊢
      linarith
    · rw [add_comm, zpow_add₀ (by norm_num), ← le_div_iff₀ hunit]
      exact hle
  have hround : scaledRound n d x.exponent = x.mantissa := by
    refine scaledRound_eq hd ⟨by linarith, hhigh, htie.imp_right fun ⟨hl, hh⟩ => ⟨?_, hh⟩⟩
    linarith
  exact ofRatio?_of_rounds hn hexponent hround (if_neg x.canonical.1.ne)

/-- The interval reaches below the binade only at a power of two. -/
lemma mantissa_eq_of_contains_of_lt (hm : 0 < x.mantissa) (h : x.interval.Contains v)
    (hexp : x.exponent ≠ -1074) (hlt : v / 2 ^ x.exponent < 2 ^ (52 : ℤ)) :
    x.mantissa = fullMantissa := by
  refine le_antisymm ?_ (x.canonical.2.2.2.resolve_right hexp)
  have hlow := ((contains_iff hm).1 h).1.1
  have hle : (x.mantissa : ℚ) < ((fullMantissa + 1 : ℕ) : ℚ) := by
    rw [Nat.cast_add, cast_fullMantissa, Nat.cast_one]
    linarith [stepBelow_le (x := x)]
  exact Nat.lt_succ_iff.1 (Nat.cast_lt.1 hle)

/-- What lies in the interval of a number, but below its binade, is rounded up to it. -/
lemma ofRatio?_of_contains_of_lt {n d : ℕ} (hm : 0 < x.mantissa) (hd : 0 < d)
    (h : x.interval.Contains (n / d)) (hexp : x.exponent ≠ -1074)
    (hlt : (n / d / 2 ^ x.exponent : ℚ) < 2 ^ (52 : ℤ)) :
    ofRatio? x.negative n d = some x := by
  have hn := num_pos_of_contains hm hd h
  have hunit : (0 : ℚ) < 2 ^ x.exponent := by positivity
  have hlow := ((contains_iff hm).1 h).1.1
  have hmfull := mantissa_eq_of_contains_of_lt hm h hexp hlt
  rw [show x.stepBelow = 1 / 4 from if_pos ⟨hmfull, hexp⟩, hmfull] at hlow
  have hscale : (n / d / 2 ^ (x.exponent - 1) : ℚ) = 2 * (n / d / 2 ^ x.exponent) := by
    rw [zpow_sub_one₀ (by norm_num)]
    field_simp
  norm_num at hlow hlt
  have hexponent : binade n d = x.exponent - 1 := by
    refine binade_eq hn hd (by have := x.canonical.2.1; omega) ?_ (.inr ?_)
    · rw [show x.exponent - 1 + 53 = 52 + x.exponent by ring, zpow_add₀ (by norm_num),
        ← div_lt_iff₀ hunit]
      norm_num
      exact hlt
    · rw [show x.exponent - 1 + 52 = 51 + x.exponent by ring, zpow_add₀ (by norm_num),
        ← le_div_iff₀ hunit]
      norm_num
      linarith
  have hround : scaledRound n d (x.exponent - 1) = 2 * fullMantissa := by
    refine scaledRound_eq hd ⟨?_, ?_, .inl (by norm_num)⟩
    · rw [hscale]
      norm_num
      linarith
    · rw [hscale]
      norm_num
      linarith
  refine ofRatio?_of_rounds hn hexponent hround ?_
  rw [if_pos rfl, sub_add_cancel, hmfull]

/-- What lies in the interval of a number is rounded to it. -/
theorem ofRatio?_of_contains {n d : ℕ} (hm : 0 < x.mantissa) (hd : 0 < d)
    (h : x.interval.Contains (n / d)) : ofRatio? x.negative n d = some x := by
  by_cases hbinade : x.exponent = -1074 ∨ (2 : ℚ) ^ (52 : ℤ) ≤ n / d / 2 ^ x.exponent
  · exact ofRatio?_of_contains_of_le hm hd h hbinade
  · rw [not_or, not_le] at hbinade
    exact ofRatio?_of_contains_of_lt hm hd h hbinade.1 hbinade.2

end SemanticLayer.Binary64
