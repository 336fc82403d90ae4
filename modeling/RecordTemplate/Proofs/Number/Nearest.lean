/-
  RecordTemplate.Proofs.Number.Nearest

  The double precision number nearest to a rational number (`Binary64.nearest`).  Rounding a
  quotient asks for its value only, not for its numerator and denominator
  (`Binary64.ofRatio_congr`), so every decimal up to the range is read as the number nearest to its
  value (`Binary64.ofDecimal_eq_nearest`), the cut at the lower end of the range included.
-/

import Mathlib.Data.Int.Log
import RecordTemplate.Proofs.Number.Rounding

namespace RecordTemplate.Number

/-! ## Quotients of equal value -/

theorem roundDiv_mul_right (tie : Tie) (n d : ℕ) {k : ℕ} (hk : 0 < k) :
    roundDiv tie (n * k) (d * k) = roundDiv tie n d := by
  have hbelow : 2 * (n % d * k) < d * k ↔ 2 * (n % d) < d := by
    rw [← Nat.mul_assoc, Nat.mul_lt_mul_right hk]
  have habove : d * k < 2 * (n % d * k) ↔ d < 2 * (n % d) := by
    rw [← Nat.mul_assoc, Nat.mul_lt_mul_right hk]
  unfold roundDiv
  simp only [Nat.mul_div_mul_right _ _ hk, Nat.mul_mod_mul_right, hbelow, habove]

theorem roundDiv_congr (tie : Tie) {n d n' d' : ℕ} (hd : 0 < d) (hd' : 0 < d')
    (h : n * d' = n' * d) : roundDiv tie n d = roundDiv tie n' d' := by
  rw [← roundDiv_mul_right tie n d hd', h, Nat.mul_comm d d', roundDiv_mul_right tie n' d' hd]

theorem roundDiv_eq_zero (tie : Tie) {n d : ℕ} (h : 2 * n < d) : roundDiv tie n d = 0 := by
  have hlt : n < d := by omega
  unfold roundDiv
  simp only [Nat.div_eq_of_lt hlt, Nat.mod_eq_of_lt hlt, if_pos h]

namespace Binary64

theorem scale_pos {n d : ℕ} (hd : 0 < d) (e : ℤ) : 0 < (scale n d e).2 :=
  Nat.mul_pos hd (Nat.pow_pos (by decide))

theorem scale_eq_div (n d : ℕ) (e : ℤ) :
    ((scale n d e).1 : ℚ) / (scale n d e).2 = n / d / 2 ^ e := by
  obtain ⟨k, rfl | rfl⟩ := e.eq_nat_or_neg
  · have hdown : (-(k : ℤ)).toNat = 0 := by omega
    simp only [scale, hdown, Int.toNat_natCast, Nat.pow_eq, pow_zero, Nat.mul_one, zpow_natCast]
    push_cast
    rw [div_div]
  · have hup : (-(k : ℤ)).toNat = 0 := by omega
    simp only [scale, hup, neg_neg, Int.toNat_natCast, Nat.pow_eq, pow_zero, Nat.mul_one, zpow_neg,
      zpow_natCast, div_inv_eq_mul]
    push_cast
    rw [mul_div_right_comm]

/-- The exponent is that of the leading binary digit, less fifty-two. -/
theorem exponentOf_eq_log {n d : ℕ} (hn : n ≠ 0) (hd : 0 < d) :
    exponentOf n d = max minExponent (Int.log 2 ((n : ℚ) / d) - 52) := by
  have hn' : (0 : ℚ) < n := by exact_mod_cast Nat.pos_of_ne_zero hn
  have hd' : (0 : ℚ) < d := by exact_mod_cast hd
  have hq : (0 : ℚ) < n / d := by positivity
  have hlow : (2 : ℚ) ^ Nat.log2 n ≤ n := by exact_mod_cast Nat.log2_self_le hn
  have hhigh : (n : ℚ) < 2 ^ (Nat.log2 n + 1) := by exact_mod_cast Nat.lt_log2_self
  have hlow' : (2 : ℚ) ^ Nat.log2 d ≤ d := by exact_mod_cast Nat.log2_self_le hd.ne'
  have hhigh' : (d : ℚ) < 2 ^ (Nat.log2 d + 1) := by exact_mod_cast Nat.lt_log2_self
  -- the lengths of numerator and denominator leave two exponents
  have hlt : Int.log 2 ((n : ℚ) / d) < (Nat.log2 n : ℤ) - Nat.log2 d + 1 := by
    rw [← Int.lt_zpow_iff_log_lt (by decide) hq, div_lt_iff₀ hd']
    have hsum : ((Nat.log2 n : ℤ) - Nat.log2 d + 1) + Nat.log2 d = (Nat.log2 n + 1 : ℕ) := by omega
    calc (n : ℚ) < 2 ^ (Nat.log2 n + 1) := hhigh
      _ = 2 ^ ((Nat.log2 n : ℤ) - Nat.log2 d + 1) * 2 ^ Nat.log2 d := by
          rw [← zpow_natCast, ← zpow_natCast, ← zpow_add₀ (by norm_num), hsum]
      _ ≤ 2 ^ ((Nat.log2 n : ℤ) - Nat.log2 d + 1) * d := by gcongr
  have hle : (Nat.log2 n : ℤ) - Nat.log2 d - 1 ≤ Int.log 2 ((n : ℚ) / d) := by
    rw [← Int.zpow_le_iff_le_log (by decide) hq, le_div_iff₀ hd']
    have hsum : ((Nat.log2 n : ℤ) - Nat.log2 d - 1) + (Nat.log2 d + 1 : ℕ) = Nat.log2 n := by omega
    calc (2 : ℚ) ^ ((Nat.log2 n : ℤ) - Nat.log2 d - 1) * d
        ≤ 2 ^ ((Nat.log2 n : ℤ) - Nat.log2 d - 1) * 2 ^ (Nat.log2 d + 1) := by gcongr
      _ = 2 ^ Nat.log2 n := by
          rw [← zpow_natCast, ← zpow_natCast, ← zpow_add₀ (by norm_num), hsum]
      _ ≤ n := hlow
  -- the size of the quotient decides between them
  have hdecides : Nat.pow 2 53 ≤ (scale n d ((Nat.log2 n : ℤ) - Nat.log2 d - 53)).1 /
      (scale n d ((Nat.log2 n : ℤ) - Nat.log2 d - 53)).2 ↔
        (Nat.log2 n : ℤ) - Nat.log2 d ≤ Int.log 2 ((n : ℚ) / d) := by
    have hpos := scale_pos (n := n) hd ((Nat.log2 n : ℤ) - Nat.log2 d - 53)
    have hpos' : (0 : ℚ) < (scale n d ((Nat.log2 n : ℤ) - Nat.log2 d - 53)).2 := by
      exact_mod_cast hpos
    have hsum : (53 : ℕ) + ((Nat.log2 n : ℤ) - Nat.log2 d - 53) = Nat.log2 n - Nat.log2 d := by
      omega
    rw [Nat.le_div_iff_mul_le hpos, ← Int.zpow_le_iff_le_log (by decide) hq]
    rw [← Nat.cast_le (α := ℚ), Nat.cast_mul, ← le_div_iff₀ hpos', scale_eq_div,
      le_div_iff₀ (by positivity), Nat.pow_eq, Nat.cast_pow, ← zpow_natCast, Nat.cast_ofNat,
      ← zpow_add₀ (by norm_num), hsum]
  unfold exponentOf
  simp only [hdecides]
  split <;> congr 1 <;> omega

/-- What a quotient is rounded to depends on its value only. -/
theorem ofRatio_congr (negative : Bool) {n d n' d' : ℕ} (hd : 0 < d) (hd' : 0 < d')
    (h : n * d' = n' * d) : ofRatio negative n d = ofRatio negative n' d' := by
  have hzero : n = 0 ↔ n' = 0 := by
    constructor
    · rintro rfl
      simpa [hd.ne'] using h.symm
    · rintro rfl
      simpa [hd'.ne'] using h
  by_cases hn : n = 0
  · rw [ofRatio, ofRatio, if_pos hn, if_pos (hzero.1 hn)]
  have hn' : n' ≠ 0 := mt hzero.2 hn
  have hvalue : (n : ℚ) / d = n' / d' := by
    rw [div_eq_div_iff (by exact_mod_cast hd.ne') (by exact_mod_cast hd'.ne')]
    exact_mod_cast h
  have hexponent : exponentOf n d = exponentOf n' d' := by
    rw [exponentOf_eq_log hn hd, exponentOf_eq_log hn' hd', hvalue]
  have hsignificand : ∀ e, roundDiv .toEven (scale n d e).1 (scale n d e).2 =
      roundDiv .toEven (scale n' d' e).1 (scale n' d' e).2 := by
    intro e
    refine roundDiv_congr .toEven (scale_pos hd e) (scale_pos hd' e) ?_
    simp only [scale]
    rw [Nat.mul_mul_mul_comm, h, Nat.mul_mul_mul_comm]
  unfold ofRatio
  rw [if_neg hn, if_neg hn', hexponent]
  simp only [hsignificand]

/-! ## Rational numbers -/

/-- The double precision number nearest to a rational number, ties to even. -/
def nearest (q : ℚ) : Binary64 := ofRatio (decide (q < 0)) q.num.natAbs q.den

theorem abs_eq_natAbs_div (q : ℚ) : |q| = (q.num.natAbs : ℚ) / q.den := by
  have hden : (0 : ℚ) < q.den := by exact_mod_cast q.den_pos
  have hcast : ((q.num.natAbs : ℤ) : ℚ) = |(q.num : ℚ)| := by
    rw [Int.natCast_natAbs, Int.cast_abs]
  conv_lhs => rw [← Rat.num_div_den q, abs_div, abs_of_pos hden]
  rw [← hcast, Int.cast_natCast]

/-- A quotient with a sign is rounded to the number nearest to its value.  Only zero may have a
    sign that its value does not tell. -/
theorem nearest_withSign {negative : Bool} {n d : ℕ} (hd : 0 < d) (h : n ≠ 0 ∨ negative = false) :
    nearest (withSign negative (n / d)) = ofRatio negative n d := by
  have hd' : (0 : ℚ) < d := by exact_mod_cast hd
  have hnonneg : (0 : ℚ) ≤ n / d := by positivity
  have hsign : decide (withSign negative (n / d) < 0) = negative := by
    rw [Bool.eq_iff_iff, decide_eq_true_iff, withSign_neg_iff hnonneg]
    refine and_iff_left_of_imp fun hnegative => ?_
    have hn : (n : ℚ) ≠ 0 := by exact_mod_cast h.resolve_right (by simp [hnegative])
    exact (div_pos (by positivity) hd').ne'
  have hvalue : ((withSign negative (n / d)).num.natAbs : ℚ) / (withSign negative (n / d)).den =
      n / d := by
    rw [← abs_eq_natAbs_div, abs_withSign, abs_of_nonneg hnonneg]
  have hden : ((withSign negative (n / d)).den : ℚ) ≠ 0 := by exact_mod_cast Rat.den_nz _
  rw [div_eq_div_iff hden hd'.ne'] at hvalue
  rw [nearest, hsign]
  exact ofRatio_congr negative (Rat.den_pos _) hd (by exact_mod_cast hvalue)

/-! ## The lower end of the range -/

/-- Ten to the power -330 is below half of the least positive number. -/
theorem two_pow_le_ten_pow : 2 * 2 ^ (-minExponent).toNat ≤ 10 ^ 330 := by decide +kernel

/-- What is as small is rounded to zero. -/
theorem ofRatio_of_small (negative : Bool) {n d : ℕ} (h : n * 10 ^ 330 < d) :
    ofRatio negative n d = zero negative := by
  by_cases hn : n = 0
  · rw [ofRatio, if_pos hn]
  have hhalf : 2 * (n * 2 ^ (-minExponent).toNat) < d := by
    have hle := Nat.mul_le_mul_left n two_pow_le_ten_pow
    calc 2 * (n * 2 ^ (-minExponent).toNat) = n * (2 * 2 ^ (-minExponent).toNat) := by ring
      _ ≤ n * 10 ^ 330 := hle
      _ < d := h
  have hn' : (0 : ℚ) < n := by exact_mod_cast Nat.pos_of_ne_zero hn
  have hd' : (0 : ℚ) < d := by exact_mod_cast Nat.zero_lt_of_lt h
  have hlog : Int.log 2 ((n : ℚ) / d) < minExponent := by
    have hpower : (2 : ℚ) ^ minExponent = (2 ^ (-minExponent).toNat)⁻¹ := by
      rw [← zpow_natCast, ← zpow_neg]
      congr 1
    have hlt : (n : ℚ) * 2 ^ (-minExponent).toNat < d := by
      have : n * 2 ^ (-minExponent).toNat < d := by omega
      exact_mod_cast this
    rw [← Int.lt_zpow_iff_log_lt (by decide) (by positivity), Nat.cast_ofNat, hpower,
      div_lt_iff₀ hd', ← div_eq_inv_mul, lt_div_iff₀ (by positivity)]
    exact hlt
  have hexponent : exponentOf n d = minExponent := by
    rw [exponentOf_eq_log hn (Nat.zero_lt_of_lt h)]
    omega
  have hscale : scale n d minExponent = (n * 2 ^ (-minExponent).toNat, d) := by
    have hup : minExponent.toNat = 0 := by decide
    simp [scale, hup]
  unfold ofRatio
  simp only [if_neg hn, hexponent, hscale, roundDiv_eq_zero .toEven hhalf]
  rfl

theorem nearest_of_small {q : ℚ} (h : |q| * 10 ^ 330 < 1) :
    ∃ negative, nearest q = zero negative := by
  refine ⟨_, ofRatio_of_small _ ?_⟩
  have hden : (0 : ℚ) < q.den := by exact_mod_cast q.den_pos
  rw [abs_eq_natAbs_div, div_mul_eq_mul_div, div_lt_one hden] at h
  exact_mod_cast h

/-! ## Equality -/

theorem eq_self {x : Binary64} (h : x ≠ .nan) : x.eq x = true := by
  cases x with
  | nan => exact absurd rfl h
  | infinite negative => simp [Binary64.eq]
  | finite negative m e => simp [Binary64.eq]

/-- The two zeros are equal. -/
theorem eq_zero_zero (negative negative' : Bool) :
    (zero negative).eq (zero negative') = true := by
  have hratio : (ratio 0 minExponent).1 = 0 := Nat.zero_mul _
  have hsigned : ∀ s, signed s 0 = 0 := by decide
  simp only [zero, Binary64.eq, hratio, hsigned, zero_mul, beq_self_eq_true]

/-! ## Decimals -/

/-- The leading digit of a coefficient stands below what its value is below. -/
theorem digitCount_add_le {c : ℕ} {k j : ℤ} (hc : c ≠ 0) (h : (c : ℚ) * 10 ^ k < 10 ^ j) :
    digitCount c + k ≤ j := by
  have hpos : 0 < digitCount c := List.length_pos_iff.2 Nat.toDigits_ne_nil
  have hdigits : 10 ^ (digitCount c - 1) ≤ c := by
    obtain hone | hmany : digitCount c = 1 ∨ 1 < digitCount c := by omega
    · rw [hone]
      omega
    · exact (lt_digitCount_iff (by omega)).1 (by omega)
  have hlow : (10 : ℚ) ^ ((digitCount c - 1 : ℕ) + k) ≤ c * 10 ^ k := by
    rw [zpow_add₀ (by norm_num), zpow_natCast]
    gcongr
    exact_mod_cast hdigits
  have := (zpow_lt_zpow_iff_right₀ (by norm_num : (1 : ℚ) < 10)).1 (hlow.trans_lt h)
  omega

/-- A decimal up to the range is read as the number nearest to its value.  Only zero may have a
    sign that its value does not tell. -/
theorem ofDecimal_eq_nearest {negative : Bool} {c : ℕ} {k : ℤ}
    (hsign : c ≠ 0 ∨ negative = false) (hrange : (c : ℚ) * 10 ^ k < 10 ^ (310 : ℤ)) :
    ofDecimal negative c k = nearest (decimalValue negative c k) := by
  have hratio : nearest (decimalValue negative c k) =
      ofRatio negative (c * 10 ^ k.toNat) (10 ^ (-k).toNat) := by
    have hpower : 10 ^ k.toNat ≠ 0 := (Nat.pow_pos (by decide)).ne'
    rw [decimalValue, ← shifted_eq, nearest_withSign (Nat.pow_pos (by decide))]
    exact hsign.imp_left fun hc => Nat.mul_ne_zero hc hpower
  rw [hratio]
  unfold ofDecimal
  split
  · next hzero => rw [hzero, Nat.zero_mul, ofRatio, if_pos rfl]
  · next hc =>
    dsimp only
    rw [if_neg (not_lt.2 (digitCount_add_le hc hrange))]
    split
    · next hsmall =>
      -- what is cut off is rounded to zero anyway
      refine (ofRatio_of_small negative ?_).symm
      have hcount : c < 10 ^ digitCount c :=
        (Nat.length_toDigits_le_iff (by decide) (List.length_pos_iff.2 Nat.toDigits_ne_nil)).1
          le_rfl
      have hup : k.toNat = 0 := by omega
      rw [hup, pow_zero, Nat.mul_one]
      calc c * 10 ^ 330 < 10 ^ digitCount c * 10 ^ 330 := by gcongr
        _ = 10 ^ (digitCount c + 330) := (pow_add _ _ _).symm
        _ ≤ 10 ^ (-k).toNat := Nat.pow_le_pow_right (by decide) (by omega)
    · rfl

end Binary64
end RecordTemplate.Number
