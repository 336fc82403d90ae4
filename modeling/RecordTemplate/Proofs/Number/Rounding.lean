/-
  RecordTemplate.Proofs.Number.Rounding

  Rounding to decimal places, as a fact about rational numbers.  Of the multiples of a power of
  ten the nearest is taken, of two the one farther from zero (`IsRounded`).  There is one such
  multiple for every number (`exists_isRounded`, `IsRounded.unique`), and the units of the last
  place that a decimal is rounded to count it (`isRounded_unitsAt`).
-/

import Mathlib.Algebra.Order.Field.Power
import Mathlib.Algebra.Order.Round
import Mathlib.Data.Rat.Floor
import Mathlib.Tactic.Linarith
import Mathlib.Tactic.FieldSimp
import RecordTemplate.Proofs.Number.Range

namespace RecordTemplate.Number

/-! ## Rounded numbers -/

/-- `r` is the multiple of ten to the power `-places` next to `d`; of two the one farther from
    zero. -/
structure IsRounded (d : ℚ) (places : ℕ) (r : ℚ) : Prop where
  multiple : ∃ n : ℤ, r = n / 10 ^ places
  nearest : ∀ n : ℤ, |d - r| ≤ |d - n / 10 ^ places|
  away : ∀ n : ℤ, |d - n / 10 ^ places| = |d - r| → |(n / 10 ^ places : ℚ)| ≤ |r|

/-- A magnitude with a sign. -/
def withSign (negative : Bool) (q : ℚ) : ℚ := if negative then -q else q

@[simp] theorem abs_withSign (negative : Bool) (q : ℚ) : |withSign negative q| = |q| := by
  cases negative <;> simp [withSign]

theorem withSign_neg_iff {negative : Bool} {q : ℚ} (hq : 0 ≤ q) :
    withSign negative q < 0 ↔ negative = true ∧ q ≠ 0 := by
  cases negative with
  | false => simpa [withSign] using hq
  | true => simpa [withSign, eq_comm] using hq.lt_iff_ne

/-- The number of a decimal. -/
def decimalValue (negative : Bool) (coefficient : ℕ) (exponent : ℤ) : ℚ :=
  withSign negative (coefficient * 10 ^ exponent)

namespace IsRounded

variable {d r r' : ℚ} {places : ℕ}

/-- A number is rounded in one way. -/
theorem unique (h : IsRounded d places r) (h' : IsRounded d places r') : r = r' := by
  obtain ⟨n, hn⟩ := h.multiple
  obtain ⟨n', hn'⟩ := h'.multiple
  have hdistance : |d - r| = |d - r'| := by
    refine le_antisymm ?_ ?_
    · simpa only [hn'] using h.nearest n'
    · simpa only [hn] using h'.nearest n
  have hsize : |r| = |r'| := by
    refine le_antisymm ?_ ?_
    · simpa only [hn] using h'.away n (by rw [← hn, hdistance])
    · simpa only [hn'] using h.away n' (by rw [← hn', hdistance])
  obtain heq | hopposite := abs_eq_abs.1 hsize
  · exact heq
  -- two opposite numbers are equally near to zero only
  · obtain hsame | hmirror := abs_eq_abs.1 hdistance
    · linarith
    · have hd : d = 0 := by linarith
      have hzero := h.nearest 0
      have hr : r = 0 := by simpa [hd] using hzero
      rw [hr] at hopposite
      linarith

theorem neg (h : IsRounded d places r) : IsRounded (-d) places (-r) := by
  obtain ⟨n, hn⟩ := h.multiple
  have hflip : ∀ q : ℚ, |-d - q| = |d - -q| := by
    intro q
    rw [← abs_neg]
    ring_nf
  have hmultiple : ∀ m : ℤ, -((m : ℚ) / 10 ^ places) = ((-m : ℤ) : ℚ) / 10 ^ places := by
    intro m
    push_cast
    ring
  refine ⟨⟨-n, ?_⟩, fun m => ?_, fun m hm => ?_⟩
  · rw [hn, hmultiple]
  · rw [hflip, hflip, neg_neg, hmultiple]
    exact h.nearest (-m)
  · rw [hflip, hflip, neg_neg, hmultiple] at hm
    have := h.away (-m) hm
    rwa [← hmultiple, abs_neg, ← abs_neg r] at this

/-- What is rounded off is less than a unit of the last place. -/
theorem abs_sub_mul_le (h : IsRounded d places r) : |d - r| * 10 ^ places ≤ 1 := by
  have hunit : (0 : ℚ) < 10 ^ places := by positivity
  have hbelow := h.nearest ⌊d * 10 ^ places⌋
  have hfloor : |d * 10 ^ places - ⌊d * 10 ^ places⌋| ≤ 1 := by
    rw [abs_of_nonneg (by linarith [Int.floor_le (d * 10 ^ places)])]
    linarith [Int.lt_floor_add_one (d * 10 ^ places)]
  calc |d - r| * 10 ^ places ≤ |d - ⌊d * 10 ^ places⌋ / 10 ^ places| * 10 ^ places := by gcongr
    _ = |d * 10 ^ places - ⌊d * 10 ^ places⌋| := by
        rw [← abs_of_pos hunit, ← abs_mul, abs_of_pos hunit, sub_mul,
          div_mul_cancel₀ _ hunit.ne']
    _ ≤ 1 := hfloor

end IsRounded

theorem isRounded_zero (places : ℕ) : IsRounded 0 places 0 where
  multiple := ⟨0, by simp⟩
  nearest n := by simp
  away n hn := by simpa using hn

/-- A whole number next to a magnitude is not below it when another one is equally near. -/
theorem abs_le_round {q : ℚ} (hq : 0 ≤ q) {n : ℤ} (h : |q - n| = |q - round q|) :
    |n| ≤ round q := by
  have hlow : (round q : ℚ) ≤ q + 1 / 2 := by
    rw [round_eq]
    exact Int.floor_le _
  have hhigh : q + 1 / 2 < round q + 1 := by
    rw [round_eq]
    exact Int.lt_floor_add_one _
  have hround : 0 ≤ round q := by
    rw [round_eq]
    exact Int.floor_nonneg.2 (by linarith)
  obtain hsame | hmirror := abs_eq_abs.1 h
  · have : n = round q := by exact_mod_cast (by linarith : (n : ℚ) = round q)
    rw [this, abs_of_nonneg hround]
  · -- the other one lies below by less than one
    have hsum : (n : ℚ) = 2 * q - round q := by linarith
    have hle : n < round q + 1 := by
      have : (n : ℚ) < ((round q + 1 : ℤ) : ℚ) := by push_cast; linarith
      exact_mod_cast this
    have hge : -round q ≤ n := by
      have : ((-round q : ℤ) : ℚ) ≤ n := by push_cast; linarith
      exact_mod_cast this
    exact abs_le.2 ⟨hge, by omega⟩

/-- The magnitude in units of the last place, rounded, counts the multiple. -/
theorem isRounded_round {q : ℚ} (hq : 0 ≤ q) (places : ℕ) :
    IsRounded q places (round (q * 10 ^ places) / 10 ^ places) := by
  have hunit : (0 : ℚ) < 10 ^ places := by positivity
  have hscale : ∀ n : ℤ, |q - n / 10 ^ places| = |q * 10 ^ places - n| / 10 ^ places := by
    intro n
    rw [← abs_of_pos hunit, ← abs_div, abs_of_pos hunit]
    congr 1
    field_simp
  have hq' : 0 ≤ q * 10 ^ places := by positivity
  refine ⟨⟨_, rfl⟩, fun n => ?_, fun n hn => ?_⟩
  · rw [hscale, hscale]
    exact div_le_div_of_nonneg_right (round_le _ n) hunit.le
  · rw [hscale, hscale, div_left_inj' hunit.ne'] at hn
    rw [abs_div, abs_div]
    refine div_le_div_of_nonneg_right ?_ (abs_nonneg _)
    have := (abs_le_round hq' hn).trans (le_abs_self _)
    exact_mod_cast this

theorem exists_isRounded (d : ℚ) (places : ℕ) : ∃ r, IsRounded d places r := by
  obtain hd | hd := le_total 0 d
  · exact ⟨_, isRounded_round hd places⟩
  · exact ⟨_, by simpa using (isRounded_round (neg_nonneg.2 hd) places).neg⟩

/-! ## Rounded decimals -/

/-- A rounded quotient is at most half a unit below, and less than half a unit above. -/
theorem roundDiv_away_bounds (n : ℕ) {d : ℕ} (hd : 0 < d) :
    2 * (d * roundDiv .away n d) ≤ 2 * n + d ∧ 2 * n + d < 2 * (d * roundDiv .away n d + d) := by
  have hdiv : d * (n / d) + n % d = n := Nat.div_add_mod n d
  have hmod : n % d < d := Nat.mod_lt n hd
  unfold roundDiv
  dsimp only
  generalize n / d = q at *
  generalize n % d = r at *
  have hnext : d * (q + 1) = d * q + d := Nat.mul_succ d q
  split
  · omega
  · split
    · omega
    · omega

theorem roundDiv_away_eq_round (n : ℕ) {d : ℕ} (hd : 0 < d) :
    (roundDiv .away n d : ℤ) = round ((n : ℚ) / d) := by
  obtain ⟨hlow, hhigh⟩ := roundDiv_away_bounds n hd
  have hd' : (0 : ℚ) < d := by exact_mod_cast hd
  have hlow' : 2 * (d * (roundDiv .away n d : ℚ)) ≤ 2 * n + d := by exact_mod_cast hlow
  have hhigh' : 2 * (n : ℚ) + d < 2 * (d * roundDiv .away n d + d) := by exact_mod_cast hhigh
  have hsum : (n : ℚ) / d + 1 / 2 = (2 * n + d) / (2 * d) := by
    field_simp
  symm
  rw [round_eq, Int.floor_eq_iff, hsum, le_div_iff₀ (by positivity), div_lt_iff₀ (by positivity)]
  push_cast
  constructor
  · linarith
  · linarith

/-- A quotient of natural numbers that shifts a coefficient by a power of ten. -/
theorem shifted_eq (c : ℕ) (k : ℤ) :
    ((c * 10 ^ k.toNat : ℕ) : ℚ) / (10 ^ (-k).toNat : ℕ) = c * 10 ^ k := by
  obtain ⟨n, rfl | rfl⟩ := k.eq_nat_or_neg
  · have hdown : (-(n : ℤ)).toNat = 0 := by omega
    rw [hdown, Int.toNat_natCast, zpow_natCast]
    push_cast
    simp
  · have hup : (-(n : ℤ)).toNat = 0 := by omega
    rw [hup, neg_neg, Int.toNat_natCast, zpow_neg, zpow_natCast]
    push_cast
    simp [div_eq_mul_inv]

open Binary64 (unitsAt)

theorem unitsAt_eq_round (c : ℕ) (k : ℤ) (places : ℕ) :
    (unitsAt c k places : ℤ) = round ((c : ℚ) * 10 ^ k * 10 ^ places) := by
  rw [unitsAt, roundDiv_away_eq_round _ (Nat.pow_pos (by decide)), shifted_eq,
    zpow_add₀ (by norm_num), zpow_natCast, mul_assoc]

/-- A decimal is rounded to as many units of the last place as `unitsAt` counts, with its sign. -/
theorem isRounded_unitsAt (negative : Bool) (c : ℕ) (k : ℤ) (places : ℕ) :
    IsRounded (decimalValue negative c k) places
      (withSign negative (unitsAt c k places / 10 ^ places)) := by
  have hround : IsRounded ((c : ℚ) * 10 ^ k) places (unitsAt c k places / 10 ^ places) := by
    have hunits : (unitsAt c k places : ℚ) = (round ((c : ℚ) * 10 ^ k * 10 ^ places) : ℤ) := by
      rw [← unitsAt_eq_round, Int.cast_natCast]
    rw [hunits]
    have hmagnitude : (0 : ℚ) ≤ c * 10 ^ k := by positivity
    exact isRounded_round hmagnitude places
  cases negative with
  | false => exact hround
  | true => exact hround.neg

theorem eq_unitsAt_of_roundTo? {c places r : ℕ} {k : ℤ}
    (h : Decimal.roundTo? c k places = some r) : r = unitsAt c k places := by
  unfold Decimal.roundTo? at h
  dsimp only at h
  split at h
  · cases h
  · split at h
    · next hzero =>
      cases h
      simp [unitsAt, roundDiv, hzero]
    · split at h
      · cases h
      · split at h
        · cases h
        · exact (Option.some.inj h).symm

/-- A decimal is rounded to the places that can be asked for when it then has no more digits than
    the precision. -/
theorem roundTo?_eq_unitsAt {c places : ℕ} {k : ℤ} (hplaces : places ≤ Decimal.maxPlaces)
    (hdigits : unitsAt c k places < 10 ^ Decimal.precision) :
    Decimal.roundTo? c k places = some (unitsAt c k places) := by
  have hsome : Decimal.roundTo? c k places ≠ none := by
    rw [Ne, Binary64.roundTo?_eq_none_iff, not_or, not_lt, not_le]
    exact ⟨hplaces, hdigits⟩
  obtain ⟨r, hr⟩ := Option.ne_none_iff_exists'.1 hsome
  rw [hr, eq_unitsAt_of_roundTo? hr]

end RecordTemplate.Number
