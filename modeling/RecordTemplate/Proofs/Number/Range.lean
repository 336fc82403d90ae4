/-
  RecordTemplate.Proofs.Number.Range

  The range of double precision.  A whole number is beyond it exactly from half a unit in the
  last place below two to the power 1024 on (`ofInt?_eq_none_iff`).  A decimal cannot be rounded
  when the result would have more than twenty-eight digits (`roundTo?_eq_none_iff`), so what is
  rounded is always in range.
-/

import Mathlib.Tactic.Ring
import RecordTemplate.Number.Decimal

namespace RecordTemplate.Number.Binary64

/-! ## Whole numbers -/

/-- The exponent of half a unit in the last place of the greatest finite numbers. -/
@[irreducible] def halfExponent : Nat := 970

/-- Half a unit in the last place of the greatest finite numbers. -/
def halfUnit : Nat := 2 ^ halfExponent

/-- The least whole number that is rounded to infinity, half a unit below two to the power 1024. -/
def overflow : Nat := (2 ^ 54 - 1) * halfUnit

theorem halfExponent_eq : halfExponent = 970 := by
  unfold halfExponent
  rfl

theorem halfUnit_pos : 0 < halfUnit := Nat.two_pow_pos halfExponent

theorem two_pow_add_halfExponent (k : Nat) : 2 ^ (halfExponent + k) = 2 ^ k * halfUnit := by
  rw [pow_add, Nat.mul_comm, halfUnit]

/-- A whole number with fifty-four bits or more, cut to fifty-four. -/
theorem scale_one_of_le {n k : Nat} {e : Int} (he : e = k) :
    scale n 1 e = (n, 2 ^ k) := by
  have hup : e.toNat = k := by omega
  have hdown : (-e).toNat = 0 := by omega
  simp [scale, hup, hdown]

theorem scale_one_of_lt {n k : Nat} {e : Int} (he : e = -(k : Int)) :
    scale n 1 e = (n * 2 ^ k, 1) := by
  have hup : e.toNat = 0 := by omega
  have hdown : (-e).toNat = k := by omega
  simp [scale, hup, hdown]

/-- The exponent of a whole number puts fifty-three bits into the significand. -/
theorem exponentOf_one {n : Nat} (h : n ≠ 0) : exponentOf n 1 = (Nat.log2 n : Int) - 52 := by
  have hlow : 2 ^ Nat.log2 n ≤ n := Nat.log2_self_le h
  have hfull : Nat.pow 2 53 ≤ (scale n 1 ((Nat.log2 n : Int) - 53)).1 /
      (scale n 1 ((Nat.log2 n : Int) - 53)).2 := by
    by_cases hlog : 53 ≤ Nat.log2 n
    · obtain ⟨k, hk⟩ := Nat.exists_eq_add_of_le hlog
      rw [scale_one_of_le (k := k) (by omega), Nat.le_div_iff_mul_le (Nat.two_pow_pos k)]
      calc 2 ^ 53 * 2 ^ k = 2 ^ Nat.log2 n := by rw [hk, pow_add]
        _ ≤ n := hlow
    · obtain ⟨k, hk⟩ := Nat.exists_eq_add_of_le (Nat.le_of_not_le hlog)
      rw [scale_one_of_lt (k := k) (by omega), Nat.div_one]
      calc 2 ^ 53 = 2 ^ Nat.log2 n * 2 ^ k := by rw [← pow_add, ← hk]
        _ ≤ n * 2 ^ k := Nat.mul_le_mul_right _ hlow
  have hone : Nat.log2 1 = 0 := rfl
  unfold exponentOf
  simp only [hone, Int.ofNat_zero, Int.sub_zero]
  rw [if_pos hfull]
  unfold minExponent
  omega

/-- A quotient below two to the power 53 is rounded up to it from half a unit below. -/
theorem roundDiv_eq_full_iff {n d : Nat} (hd : 0 < d) (h : n < 2 ^ 53 * d) :
    roundDiv .toEven n d = 2 ^ 53 ↔ (2 ^ 54 - 1) * d ≤ 2 * n := by
  have hdiv : d * (n / d) + n % d = n := Nat.div_add_mod n d
  have hmod : n % d < d := Nat.mod_lt n hd
  have hlt : n / d < 2 ^ 53 := Nat.div_lt_of_lt_mul (by rwa [Nat.mul_comm])
  unfold roundDiv
  dsimp only
  generalize n / d = q at *
  generalize n % d = r at *
  obtain hlast | hbefore : q = 2 ^ 53 - 1 ∨ q ≤ 2 ^ 53 - 2 := by omega
  · subst hlast
    split
    · omega
    · split
      · omega
      · -- half-way, where the quotient is odd
        exact iff_of_true rfl (by omega)
  · have hprod : d * q ≤ d * (2 ^ 53 - 2) := Nat.mul_le_mul_left d hbefore
    have hsmall : 2 * n < (2 ^ 54 - 1) * d := by omega
    have hne : ∀ m, m ≤ q + 1 → m ≠ 2 ^ 53 := by omega
    refine iff_of_false (hne _ ?_) (by omega)
    split
    · omega
    · split
      · omega
      · split <;> omega

/-- The exponent of a whole number after rounding, which may carry. -/
def carriedExponent (n : Nat) : Int :=
  let e := (Nat.log2 n : Int) - 52
  if roundDiv .toEven (scale n 1 e).1 (scale n 1 e).2 = Nat.pow 2 53 then e + 1 else e

theorem ofRatio_one (negative : Bool) {n : Nat} (h : n ≠ 0) :
    (maxExponent < carriedExponent n → ofRatio negative n 1 = .infinite negative) ∧
      (carriedExponent n ≤ maxExponent → ∃ m e, ofRatio negative n 1 = .finite negative m e) := by
  unfold ofRatio carriedExponent
  simp only [if_neg h, exponentOf_one h]
  split
  · refine ⟨fun hlarge => if_pos hlarge, fun hsmall => ?_⟩
    rw [if_neg (not_lt.2 hsmall)]
    exact ⟨_, _, rfl⟩
  · refine ⟨fun hlarge => if_pos hlarge, fun hsmall => ?_⟩
    rw [if_neg (not_lt.2 hsmall)]
    split
    · exact ⟨_, _, rfl⟩
    · exact ⟨_, _, rfl⟩

/-- Whole numbers below `overflow` keep within the greatest exponent, and others do not. -/
theorem carriedExponent_le_iff {n : Nat} (h : n ≠ 0) :
    carriedExponent n ≤ maxExponent ↔ n < overflow := by
  have hunit := halfUnit_pos
  have hhalf := halfExponent_eq
  rw [overflow, carriedExponent, maxExponent]
  obtain hbelow | hlast | habove : Nat.log2 n < halfExponent + 53 ∨
      Nat.log2 n = halfExponent + 53 ∨ halfExponent + 54 ≤ Nat.log2 n := by omega
  · -- in range even after a carry
    have hn : n < 2 ^ 53 * halfUnit :=
      ((Nat.log2_lt h).1 hbelow).trans_eq (two_pow_add_halfExponent 53)
    refine iff_of_true ?_ (by omega)
    split <;> omega
  · -- the carry decides
    have hn : n < 2 ^ 54 * halfUnit :=
      ((Nat.log2_lt h).1 (by omega)).trans_eq (two_pow_add_halfExponent 54)
    have hunits : 2 ^ (halfExponent + 1) = 2 * halfUnit := two_pow_add_halfExponent 1
    have he : (Nat.log2 n : Int) - 52 = ((halfExponent + 1 : Nat) : Int) := by omega
    have hcarry : roundDiv .toEven n (2 ^ (halfExponent + 1)) = Nat.pow 2 53 ↔
        (2 ^ 54 - 1) * (2 * halfUnit) ≤ 2 * n := by
      rw [hunits]
      exact roundDiv_eq_full_iff (by omega) (by omega)
    rw [scale_one_of_le he]
    split
    · have := hcarry.1 ‹_›
      omega
    · have := mt hcarry.2 ‹_›
      omega
  · have hn : 2 ^ 54 * halfUnit ≤ n :=
      (two_pow_add_halfExponent 54).symm.trans_le ((Nat.le_log2 h).1 habove)
    refine iff_of_false ?_ (by omega)
    split <;> omega

/-- A whole number is rounded to infinity from `overflow` on, and to a finite number below. -/
theorem ofRatio_one_eq_infinite {n : Nat} (h : overflow ≤ n) (negative : Bool) :
    ofRatio negative n 1 = .infinite negative := by
  have hn : n ≠ 0 := by
    have := halfUnit_pos
    rw [overflow] at h
    omega
  exact (ofRatio_one negative hn).1 (not_le.1 (mt (carriedExponent_le_iff hn).1 (not_lt.2 h)))

theorem ofRatio_one_eq_finite {n : Nat} (h : n < overflow) (negative : Bool) :
    ∃ m e, ofRatio negative n 1 = .finite negative m e := by
  by_cases hn : n = 0
  · exact ⟨0, minExponent, by rw [ofRatio, if_pos hn, zero]⟩
  · exact (ofRatio_one negative hn).2 ((carriedExponent_le_iff hn).2 h)

/-- The integers that no double precision number is near to. -/
theorem ofInt?_eq_none_iff {n : Int} : ofInt? n = none ↔ overflow ≤ n.natAbs := by
  unfold ofInt?
  by_cases h : overflow ≤ n.natAbs
  · rw [ofRatio_one_eq_infinite h]
    exact iff_of_true rfl h
  · obtain ⟨m, e, hfinite⟩ := ofRatio_one_eq_finite (not_le.1 h) (decide (n < 0))
    rw [hfinite]
    exact iff_of_false (by simp) h

/-! ## Rounded decimals -/

theorem div_le_roundDiv (tie : Tie) (n d : Nat) : n / d ≤ roundDiv tie n d := by
  unfold roundDiv
  dsimp only
  repeat' split
  all_goals omega

/-- A number has more than `k` digits exactly from ten to the power `k` on. -/
theorem lt_digitCount_iff {n k : Nat} (h : 0 < k) : k < digitCount n ↔ 10 ^ k ≤ n := by
  rw [← not_iff_not, not_lt, not_le]
  exact Nat.length_toDigits_le_iff (by decide) h

/-- A decimal magnitude in units of the decimal place asked for, a half away from zero. -/
def unitsAt (coefficient : Nat) (exponent : Int) (places : Nat) : Nat :=
  roundDiv .away (coefficient * 10 ^ (exponent + places).toNat)
    (10 ^ (-(exponent + places)).toNat)

/-- A magnitude whose digits reach beyond the precision still has too many when it is rounded. -/
theorem le_unitsAt {c places : Nat} {k : Int} (hc : c ≠ 0)
    (h : (Decimal.precision : Int) < digitCount c + (k + places)) :
    10 ^ Decimal.precision ≤ unitsAt c k places := by
  have hpos : 0 < Decimal.precision := by decide
  refine le_trans ?_ (div_le_roundDiv _ _ _)
  obtain hshift | hshift := le_total 0 (k + places)
  · obtain ⟨up, hup⟩ := Int.eq_ofNat_of_zero_le hshift
    have hdown : (-(up : Int)).toNat = 0 := by omega
    rw [hup, hdown, Int.toNat_natCast, pow_zero, Nat.div_one]
    by_cases hlarge : Decimal.precision ≤ up
    · calc 10 ^ Decimal.precision ≤ 10 ^ up := Nat.pow_le_pow_right (by decide) hlarge
        _ ≤ c * 10 ^ up := Nat.le_mul_of_pos_left _ (Nat.pos_of_ne_zero hc)
    · have hdigits : 10 ^ (Decimal.precision - up) ≤ c :=
        (lt_digitCount_iff (by omega)).1 (by omega)
      calc 10 ^ Decimal.precision = 10 ^ (Decimal.precision - up) * 10 ^ up := by
            rw [← pow_add, Nat.sub_add_cancel (Nat.le_of_not_le hlarge)]
        _ ≤ c * 10 ^ up := Nat.mul_le_mul_right _ hdigits
  · obtain ⟨down, hdown⟩ := Int.eq_ofNat_of_zero_le (Int.neg_nonneg.2 hshift)
    have hup : (k + places).toNat = 0 := by omega
    have hdigits : 10 ^ (Decimal.precision + down) ≤ c :=
      (lt_digitCount_iff (by omega)).1 (by omega)
    rw [hup, hdown, Int.toNat_natCast, pow_zero, Nat.mul_one,
      Nat.le_div_iff_mul_le (Nat.pow_pos (by decide)), ← pow_add]
    exact hdigits

/-- A magnitude cannot be rounded to too many places, nor to more digits than the precision. -/
theorem roundTo?_eq_none_iff {c places : Nat} {k : Int} :
    Decimal.roundTo? c k places = none ↔
      Decimal.maxPlaces < places ∨ 10 ^ Decimal.precision ≤ unitsAt c k places := by
  unfold Decimal.roundTo?
  dsimp only
  split
  · next h => exact iff_of_true rfl (.inl h)
  · next hplaces =>
    rw [or_iff_right hplaces]
    split
    · next hzero =>
      have hunits : unitsAt c k places = 0 := by simp [unitsAt, roundDiv, hzero]
      exact iff_of_false (by simp) (by rw [hunits]; decide)
    · next hc =>
      split
      · next hlarge => exact iff_of_true rfl (le_unitsAt hc hlarge)
      · have hunits : roundDiv .away (c * Nat.pow 10 (k + places).toNat)
            (Nat.pow 10 (-(k + places)).toNat) = unitsAt c k places := rfl
        rw [hunits, ← lt_digitCount_iff (by decide)]
        split <;> simp [*]

/-- What is rounded has at most as many digits as the precision allows. -/
theorem digitCount_of_roundTo? {c places r : Nat} {k : Int}
    (h : Decimal.roundTo? c k places = some r) : digitCount r ≤ Decimal.precision := by
  unfold Decimal.roundTo? at h
  dsimp only at h
  split at h
  · cases h
  · split at h
    · cases h
      decide
    · split at h
      · cases h
      · split at h
        · cases h
        · cases h
          exact not_lt.1 ‹_›

/-- A number rounded to no decimal places is finite. -/
theorem ofDecimal_of_roundTo? {c places r : Nat} {k : Int}
    (h : Decimal.roundTo? c k places = some r) (negative : Bool) :
    ∃ m e, ofDecimal negative r 0 = .finite negative m e := by
  have hdigits := digitCount_of_roundTo? h
  have hlt : r < 10 ^ 28 := not_le.1 (mt (lt_digitCount_iff (by decide)).2 (not_lt.2 hdigits))
  have hsmall : r < overflow := by
    have hunit : 2 ^ 94 ≤ halfUnit :=
      Nat.pow_le_pow_right (by decide) (by rw [halfExponent_eq]; decide)
    rw [overflow]
    omega
  unfold Decimal.precision at hdigits
  unfold ofDecimal
  split
  · exact ⟨0, minExponent, rfl⟩
  · dsimp only
    rw [if_neg (by omega), if_neg (by omega)]
    simpa using ofRatio_one_eq_finite hsmall negative

/-- No quotient is rounded to what is not a number. -/
theorem ofRatio_ne_nan (negative : Bool) (num den : Nat) : ofRatio negative num den ≠ .nan := by
  unfold ofRatio zero
  dsimp only
  repeat' split
  all_goals simp

theorem ofDecimal_ne_nan (negative : Bool) (c : Nat) (k : Int) : ofDecimal negative c k ≠ .nan := by
  unfold ofDecimal zero
  dsimp only
  repeat' split
  all_goals simp [ofRatio_ne_nan]

theorem ofInt?_ne_nan (n : Int) : ofInt? n ≠ some .nan := by
  unfold ofInt?
  split
  · simp
  · simp [ofRatio_ne_nan]

theorem mulNat_eq_nan_iff {x : Binary64} {k : Nat} : x.mulNat k = .nan ↔ x = .nan := by
  cases x with
  | finite s m e => simp [mulNat, ofRatio_ne_nan]
  | nan => simp [mulNat]
  | infinite s => simp [mulNat]

end RecordTemplate.Number.Binary64
