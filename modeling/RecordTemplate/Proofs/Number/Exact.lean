/-
  RecordTemplate.Proofs.Number.Exact

  Whole numbers below two to the power 53 are double precision numbers, so nothing is lost when
  they are rounded (`Binary64.isExactly_ofRatio`).  What is computed from such a number, its whole
  part or its place among others, is what the whole number gives.
-/

import RecordTemplate.Proofs.Number.Nearest
import RecordTemplate.Proofs.Number.Range

namespace RecordTemplate.Number.Binary64

/-- A double precision number that is a whole number with a sign. -/
def IsExactly (x : Binary64) (negative : Bool) (n : Nat) : Prop :=
  ∃ m e, x = .finite negative m e ∧ (ratio m e).1 = n * (ratio m e).2

theorem signed_mul (negative : Bool) (n d : Nat) :
    signed negative (n * d) = signed negative n * (d : Int) := by
  cases negative <;> simp [signed]

theorem signed_natAbs (n : Int) : signed (decide (n < 0)) n.natAbs = n := by
  unfold signed
  by_cases h : n < 0
  · rw [if_pos (decide_eq_true h)]
    omega
  · rw [if_neg (by simpa using h)]
    omega

theorem ratio_pos (m : Nat) (e : Int) : 0 < (ratio m e).2 := Nat.pow_pos (by decide)

theorem roundDiv_one (tie : Tie) (n : Nat) : roundDiv tie n 1 = n := by
  simp [roundDiv, Nat.mod_one]

/-- A whole number of at most fifty-three bits is its own nearest number. -/
theorem isExactly_ofRatio (negative : Bool) {n : Nat} (h : n < 2 ^ 53) :
    (ofRatio negative n 1).IsExactly negative n := by
  by_cases hn : n = 0
  · subst hn
    exact ⟨0, minExponent, rfl, by simp [ratio]⟩
  · have hlog : Nat.log2 n < 53 := (Nat.log2_lt hn).2 h
    obtain ⟨k, hk⟩ := Nat.exists_eq_add_of_le (Nat.le_of_lt_succ hlog)
    have he : (Nat.log2 n : Int) - 52 = -(k : Int) := by omega
    have hlt : n * 2 ^ k < 2 ^ 53 := by
      calc n * 2 ^ k < 2 ^ (Nat.log2 n + 1) * 2 ^ k :=
            Nat.mul_lt_mul_of_pos_right Nat.lt_log2_self (Nat.two_pow_pos k)
        _ = 2 ^ 53 := by rw [← pow_add]; congr 1; omega
    have hne : n * 2 ^ k ≠ 0 := Nat.mul_ne_zero hn (Nat.two_pow_pos k).ne'
    have hsmall : ¬ maxExponent < -(k : Int) := by
      unfold maxExponent
      omega
    refine ⟨n * 2 ^ k, -(k : Int), ?_, ?_⟩
    · unfold ofRatio
      simp only [if_neg hn, exponentOf_one hn, he, scale_one_of_lt rfl, roundDiv_one]
      have hfull : n * 2 ^ k ≠ Nat.pow 2 53 := hlt.ne
      simp only [if_neg hfull, if_neg hsmall, if_neg hne]
    · have hup : (-(k : Int)).toNat = 0 := by omega
      simp [ratio, hup]

/-- The same number over another denominator. -/
theorem isExactly_ofRatio_mul (negative : Bool) {n d : Nat} (hd : 0 < d) (h : n < 2 ^ 53) :
    (ofRatio negative (n * d) d).IsExactly negative n := by
  have hcongr : ofRatio negative (n * d) d = ofRatio negative n 1 :=
    ofRatio_congr negative hd Nat.one_pos (Nat.mul_one _)
  rw [hcongr]
  exact isExactly_ofRatio negative h

/-- The decimal of a whole number. -/
theorem isExactly_ofDecimal (negative : Bool) {n : Nat} (h : n < 2 ^ 53) :
    (ofDecimal negative n 0).IsExactly negative n := by
  by_cases hn : n = 0
  · subst hn
    exact ⟨0, minExponent, rfl, by simp [ratio]⟩
  · have hdigits : digitCount n ≤ 16 := by
      refine (Nat.length_toDigits_le_iff (by decide) (by decide)).2 (h.trans ?_)
      decide
    unfold ofDecimal
    simp only [if_neg hn]
    rw [if_neg (by omega), if_neg (by omega)]
    simpa using isExactly_ofRatio negative h

/-- Zero times anything is zero. -/
theorem mulNat_zero (negative : Bool) (e : Int) (k : Nat) :
    (finite negative 0 e).mulNat k = zero negative := by
  unfold mulNat ratio
  dsimp only
  rw [Nat.zero_mul, Nat.zero_mul]
  exact if_pos rfl

namespace IsExactly

variable {x y : Binary64} {negative negative' : Bool} {n k : Nat}

/-- Nothing is cut off. -/
theorem truncate_eq {m : Nat} {e : Int} (h : (ratio m e).1 = n * (ratio m e).2) :
    truncate negative m e = signed negative n := by
  unfold truncate signed
  dsimp only
  rw [h, Nat.mul_div_cancel _ (ratio_pos m e)]

/-- Whole numbers are in their order. -/
theorem lt_iff (hx : x.IsExactly negative n) (hy : y.IsExactly negative' k) :
    x.lt y = true ↔ signed negative n < signed negative' k := by
  obtain ⟨m, e, rfl, hn⟩ := hx
  obtain ⟨m', e', rfl, hk⟩ := hy
  have hpos := ratio_pos m e
  have hpos' := ratio_pos m' e'
  unfold lt
  dsimp only
  rw [decide_eq_true_eq, hn, hk, signed_mul, signed_mul, mul_assoc, mul_assoc,
    mul_comm ((ratio m' e').2 : Int)]
  exact mul_lt_mul_iff_left₀ (by positivity)

end IsExactly

end RecordTemplate.Number.Binary64
