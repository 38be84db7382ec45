import Mathlib.Data.Nat.Bitwise
import PowerDiscovery.Number.Binary64

/-! # Whole numbers as floating point numbers

A whole number rounds to a finite number as long as it is closer to the largest finite one than to the
power of two after it, and it keeps its sign. -/

namespace PowerDiscovery.Binary64

private theorem scaleDown_of_nonneg (num den k : Nat) : scaleDown num den k = (num, den * 2 ^ k) := by
  simp [scaleDown]

private theorem scaleDown_succ (num k : Nat) : scaleDown num 1 (k + 1 : Nat) = (num, 2 * 2 ^ k) := by
  rw [scaleDown_of_nonneg, Nat.one_mul, Nat.pow_succ']

private theorem exponentOf_one {num : Nat} (h : 0 < num) :
    exponentOf num 1 = max (-1074) ((num.log2 : Int) - 52) := by
  have hone : Nat.log2 1 = 0 := by decide
  have hlow : (num.log2 : Int) - (0 : Nat) - 53 + 53 = (num.log2 : Nat) := by omega
  have hle : num ≥ 1 * 2 ^ num.log2 := by
    rw [Nat.one_mul]
    exact Nat.log2_self_le (Nat.pos_iff_ne_zero.mp h)
  simp only [exponentOf, hone, hlow, scaleDown_of_nonneg, if_pos hle, leastExponent]
  congr 1
  omega

/-- A quotient below `2 ^ 53` is rounded up to it from halfway on, as the whole number below is odd. -/
private theorem roundDiv_eq_iff {num p : Nat} (hp : 0 < p) (h : num < 2 ^ 54 * p) :
    roundDiv num (2 * p) = 2 ^ 53 ↔ 2 ^ 54 * p - p ≤ num := by
  have hdiv := Nat.div_add_mod num (2 * p)
  have hmod := Nat.mod_lt num (show 0 < 2 * p by omega)
  have hq : num / (2 * p) < 2 ^ 53 := Nat.div_lt_of_lt_mul (by omega)
  rw [Nat.mul_assoc] at hdiv
  simp only [roundDiv]
  generalize num % (2 * p) = r at *
  generalize num / (2 * p) = q at *
  by_cases hlast : q = 2 ^ 53 - 1
  · subst hlast
    by_cases hr : p ≤ r
    · rw [if_pos (by grind)]
      omega
    · rw [if_neg (by grind)]
      omega
  · have hpq := Nat.mul_le_mul_left p (show q ≤ 2 ^ 53 - 2 by omega)
    split <;> omega

private theorem two_pow_le_mul {k : Nat} (i j : Nat) (h : k ≤ i + j) : 2 ^ k ≤ 2 ^ i * 2 ^ j := by
  rw [← Nat.pow_add]
  exact Nat.pow_le_pow_right Nat.two_pos h

private theorem mul_le_two_pow {k : Nat} (i j : Nat) (h : i + j ≤ k) : 2 ^ i * 2 ^ j ≤ 2 ^ k := by
  rw [← Nat.pow_add]
  exact Nat.pow_le_pow_right Nat.two_pos h

private theorem isFinite_capped (negative : Bool) (significand : Nat) (e : Int) :
    (if e > greatestExponent then infinite negative else finite negative significand e).isFinite = true ↔
      e ≤ 971 := by
  have hgreatest : greatestExponent = 971 := rfl
  split
  · exact iff_of_false Bool.false_ne_true (by omega)
  · exact iff_of_true rfl (by omega)

private theorem isFinite_nearest {num den n d : Nat} (hnum : num ≠ 0)
    (hscaled : scaleDown num den (exponentOf num den) = (n, d)) (negative : Bool) :
    (nearest negative num den).isFinite = true ↔
      (if roundDiv n d = 2 ^ 53 then exponentOf num den + 1 else exponentOf num den) ≤ 971 := by
  have hpow : Nat.pow 2 53 = 2 ^ 53 := rfl
  simp only [nearest, if_neg hnum, hscaled, hpow]
  by_cases hround : roundDiv n d = 2 ^ 53
  · simp only [hround, if_true]
    exact isFinite_capped negative _ _
  · simp only [hround, if_false]
    exact isFinite_capped negative _ _

/-- A whole number is too large exactly from `2 ^ 1024 - 2 ^ 970` on, the middle between the largest finite
number and `2 ^ 1024`. -/
private theorem isFinite_nearest_one (negative : Bool) (num : Nat) :
    (nearest negative num 1).isFinite = true ↔ num < 2 ^ 1024 - 2 ^ 970 := by
  have hbound : 2 ^ 1024 = 2 ^ 54 * 2 ^ 970 := by simp only [← Nat.pow_add, Nat.reduceAdd]
  have hpos : ∀ k, 0 < 2 ^ k := Nat.two_pow_pos
  have hp : 0 < 2 ^ 970 := hpos 970
  rw [hbound]
  by_cases hzero : num = 0
  · generalize 2 ^ 970 = p at hp
    simp only [nearest, hzero, if_true, zero, isFinite, true_iff]
    omega
  have hlow := Nat.log2_self_le hzero
  have hhigh := @Nat.lt_log2_self num
  obtain ⟨n, d, hscaled⟩ : ∃ n d, scaleDown num 1 (exponentOf num 1) = (n, d) := ⟨_, _, rfl⟩
  have hexponent := exponentOf_one (Nat.pos_of_ne_zero hzero)
  rw [isFinite_nearest hzero hscaled]
  rcases Nat.lt_trichotomy num.log2 1023 with hsmall | hlast | hlarge
  · -- The exponent is small enough, also after rounding.
    have hpow : 2 ^ (num.log2 + 1) ≤ 2 ^ 53 * 2 ^ 970 := two_pow_le_mul 53 970 (by omega)
    generalize 2 ^ 970 = p at *
    refine iff_of_true ?_ (by omega)
    split <;> omega
  · -- The exponent is the greatest one, so that all depends on the rounding.
    have hgreatest : exponentOf num 1 = (971 : Nat) := by omega
    have htop : num < 2 ^ 54 * 2 ^ 970 := Nat.lt_of_lt_of_le hhigh (two_pow_le_mul 54 970 (by omega))
    rw [hgreatest, scaleDown_succ num 970] at hscaled
    cases hscaled
    have hrounds := roundDiv_eq_iff hp htop
    rw [hgreatest]
    generalize 2 ^ 970 = p at *
    split <;> omega
  · -- The exponent is too great before rounding.
    have hpow : 2 ^ 54 * 2 ^ 970 ≤ 2 ^ num.log2 := mul_le_two_pow 54 970 (by omega)
    generalize 2 ^ 970 = p at *
    refine iff_of_false ?_ (by omega)
    split <;> omega

theorem ofInt?_eq_none_iff (n : Int) : ofInt? n = none ↔ 2 ^ 1024 - 2 ^ 970 ≤ n.natAbs := by
  have hfinite := isFinite_nearest_one (n < 0) n.natAbs
  rw [← Nat.not_lt, ← hfinite]
  unfold ofInt?
  cases nearest (n < 0) n.natAbs 1 <;> simp [isFinite]

/-! ### The sign -/

private theorem div_le_roundDiv (num den : Nat) : num / den ≤ roundDiv num den := by
  simp only [roundDiv]
  split
  · exact Nat.le_succ _
  · exact Nat.le_refl _

private theorem scaled_div_pos {num n d : Nat} (hnum : num ≠ 0)
    (hscaled : scaleDown num 1 (exponentOf num 1) = (n, d)) : 0 < n / d := by
  have hlow := Nat.log2_self_le hnum
  have hexponent := exponentOf_one (Nat.pos_of_ne_zero hnum)
  rcases Nat.lt_or_ge num.log2 52 with hsmall | hlarge
  · have hnegative : ¬ exponentOf num 1 ≥ 0 := by omega
    rw [scaleDown, if_neg hnegative] at hscaled
    cases hscaled
    rw [Nat.div_one]
    exact Nat.mul_pos (Nat.pos_of_ne_zero hnum) (Nat.two_pow_pos _)
  · obtain ⟨k, hk⟩ : ∃ k : Nat, num.log2 = k + 52 := ⟨num.log2 - 52, by omega⟩
    have hscale : exponentOf num 1 = (k : Nat) := by omega
    rw [hscale, scaleDown_of_nonneg, Nat.one_mul] at hscaled
    cases hscaled
    apply Nat.div_pos _ (Nat.two_pow_pos k)
    have hpow : 2 ^ k ≤ 2 ^ num.log2 := Nat.pow_le_pow_right Nat.two_pos (by omega)
    omega

private theorem isPositive_nearest_one (negative : Bool) (num : Nat) :
    (nearest negative num 1).isPositive = true ↔ negative = false ∧ num ≠ 0 := by
  by_cases hzero : num = 0
  · simp only [nearest, if_pos hzero, zero, isPositive]
    simp [hzero]
  obtain ⟨n, d, hscaled⟩ : ∃ n d, scaleDown num 1 (exponentOf num 1) = (n, d) := ⟨_, _, rfl⟩
  have hpos : 0 < roundDiv n d := Nat.lt_of_lt_of_le (scaled_div_pos hzero hscaled) (div_le_roundDiv n d)
  have hcapped : ∀ (significand : Nat) (e : Int), 0 < significand →
      ((if e > greatestExponent then infinite negative else finite negative significand e).isPositive =
        true ↔ negative = false) := by
    intro significand e hsignificand
    split <;> simp [isPositive, hsignificand]
  simp only [nearest, if_neg hzero, hscaled]
  rw [and_iff_left hzero]
  split
  · exact hcapped _ _ (Nat.two_pow_pos 52)
  · exact hcapped _ _ hpos

theorem isPositive_of_ofInt? {n : Int} {x : Binary64} (h : ofInt? n = some x) :
    x.isPositive = true ↔ 0 < n := by
  have hx : x = nearest (n < 0) n.natAbs 1 := by
    unfold ofInt? at h
    split at h
    · rename_i hnearest
      rw [hnearest]
      exact (Option.some.inj h).symm
    · cases h
  rw [hx, isPositive_nearest_one, decide_eq_false_iff_not]
  omega

end PowerDiscovery.Binary64
