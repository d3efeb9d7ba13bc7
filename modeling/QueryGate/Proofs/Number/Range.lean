import Mathlib.Algebra.Order.Field.Power
import Mathlib.Tactic.FieldSimp
import Mathlib.Tactic.Linarith
import Mathlib.Tactic.Positivity
import Mathlib.Tactic.Ring
import QueryGate.Number.Binary64

/-!
# Which numerals are beyond the range of binary64

Rounding to the nearest leaves the finite numbers halfway between the greatest of them and the next
power of two, at `Binary64.overflow`. Main statement: `Binary64.isFinite_ofNumeral`. The exponent
that `exponentFor` picks is the one at which the mantissa has 53 bits; only at the greatest exponent
does the rounding of the mantissa decide.
-/

set_option autoImplicit false

namespace QueryGate

theorem twoTo_eq (n : Nat) : twoTo n = 2 ^ n := rfl

theorem tenTo_eq (n : Nat) : tenTo n = 10 ^ n := rfl

def Numeral.magnitude (x : Numeral) : ℚ := x.coefficient * 10 ^ x.exponent

namespace Binary64

def overflow : ℚ := (2 ^ 54 - 1) * 2 ^ 970

theorem le_roundDiv {num den k : Nat} (hden : 0 < den) (hk : 0 < k) :
    2 * k ≤ roundDiv num den ↔ (4 * k - 1) * den ≤ 2 * num := by
  have hnum : num = den * (num / den) + num % den := (Nat.div_add_mod num den).symm
  have hrest : num % den < den := Nat.mod_lt num hden
  unfold roundDiv
  dsimp only
  generalize num / den = q at hnum ⊢
  generalize num % den = r at hnum hrest ⊢
  obtain ⟨j, rfl⟩ : ∃ j, k = j + 1 := ⟨k - 1, by omega⟩
  have hodd : 4 * (j + 1) - 1 = 4 * j + 3 := by omega
  rw [hodd]
  rcases Nat.lt_trichotomy q (2 * j + 1) with hlt | heq | hgt
  · have hq : den * q ≤ den * (2 * j) := Nat.mul_le_mul_left _ (by omega)
    have hsmall : ¬(4 * j + 3) * den ≤ 2 * num := by
      have hexpand : (4 * j + 3) * den = 2 * (den * (2 * j)) + 3 * den := by ring
      omega
    have hround : ¬2 * (j + 1) ≤
        if 2 * r < den then q else if den < 2 * r then q + 1 else q + q % 2 := by
      split_ifs <;> omega
    exact iff_of_false hround hsmall
  · -- the quotient is odd, so that a tie goes up as well
    subst heq
    have hexpand : (4 * j + 3) * den = 2 * (den * (2 * j + 1)) + den := by ring
    split_ifs <;> omega
  · have hq : den * (2 * j + 2) ≤ den * q := Nat.mul_le_mul_left _ (by omega)
    have hlarge : (4 * j + 3) * den ≤ 2 * num := by
      have hexpand : (4 * j + 3) * den + den = 2 * (den * (2 * j + 2)) := by ring
      omega
    have hround : 2 * (j + 1) ≤
        if 2 * r < den then q else if den < 2 * r then q + 1 else q + q % 2 := by
      split_ifs <;> omega
    exact iff_of_true hround hlarge

theorem roundDiv_le {num den k : Nat} (h : num < k * den) : roundDiv num den ≤ k := by
  have hquotient : num / den < k := Nat.div_lt_of_lt_mul (by rwa [Nat.mul_comm])
  unfold roundDiv
  dsimp only
  split_ifs <;> omega

section Ratio

variable {num den : Nat}

theorem scaleDown_snd_pos (hden : 0 < den) (e : Int) : 0 < (scaleDown num den e).2 := by
  unfold scaleDown
  split
  · exact Nat.mul_pos hden (Nat.pow_pos (by decide))
  · exact hden

theorem scaleDown_ratio (num : Nat) (hden : 0 < den) (e : Int) :
    ((scaleDown num den e).1 : ℚ) / (scaleDown num den e).2 = num / den / 2 ^ e := by
  have hden' : (den : ℚ) ≠ 0 := Nat.cast_ne_zero.mpr hden.ne'
  unfold scaleDown
  split
  · rename_i he
    lift e to Nat using he
    rw [Int.toNat_natCast, twoTo_eq, zpow_natCast]
    push_cast
    field_simp
  · rename_i he
    obtain ⟨n, rfl⟩ : ∃ n : Nat, e = -n := ⟨(-e).toNat, by omega⟩
    rw [neg_neg, Int.toNat_natCast, twoTo_eq, zpow_neg, zpow_natCast]
    push_cast
    field_simp

theorem scaleDown_lt_iff (hden : 0 < den) (e : Int) (k : Nat) :
    (scaleDown num den e).1 < (scaleDown num den e).2 * twoTo k ↔
      (num / den : ℚ) < 2 ^ (k + e) := by
  have hpos : (0 : ℚ) < (scaleDown num den e).2 := Nat.cast_pos.mpr (scaleDown_snd_pos hden e)
  have hratio := scaleDown_ratio num hden e
  have htwo : (0 : ℚ) < 2 ^ e := zpow_pos (by norm_num) e
  rw [div_eq_div_iff hpos.ne' htwo.ne'] at hratio
  rw [zpow_add₀ (by norm_num), zpow_natCast, ← div_lt_iff₀ htwo, ← scaleDown_ratio num hden e,
    div_lt_iff₀ hpos, ← Nat.cast_lt (α := ℚ), twoTo_eq]
  push_cast
  rw [mul_comm]

theorem two_zpow_log2_le {n : Nat} (hn : 0 < n) : (2 : ℚ) ^ (n.log2 : Int) ≤ n := by
  rw [zpow_natCast]
  exact_mod_cast Nat.log2_self_le hn.ne'

theorem lt_two_zpow_log2 (n : Nat) : (n : ℚ) < 2 ^ ((n.log2 : Int) + 1) := by
  rw [← Nat.cast_succ, zpow_natCast]
  exact_mod_cast Nat.lt_log2_self

theorem two_zpow_le_ratio (hnum : 0 < num) (hden : 0 < den) :
    (2 : ℚ) ^ ((num.log2 : Int) - den.log2 - 1) ≤ num / den := by
  rw [le_div_iff₀ (Nat.cast_pos.mpr hden)]
  calc (2 : ℚ) ^ ((num.log2 : Int) - den.log2 - 1) * den
      ≤ 2 ^ ((num.log2 : Int) - den.log2 - 1) * 2 ^ ((den.log2 : Int) + 1) := by
        gcongr
        exact (lt_two_zpow_log2 den).le
    _ = 2 ^ (num.log2 : Int) := by
      rw [← zpow_add₀ (by norm_num)]
      congr 1
      omega
    _ ≤ num := two_zpow_log2_le hnum

theorem ratio_lt_two_zpow (num : Nat) (hden : 0 < den) :
    (num / den : ℚ) < 2 ^ ((num.log2 : Int) - den.log2 + 1) := by
  rw [div_lt_iff₀ (Nat.cast_pos.mpr hden)]
  calc (num : ℚ) < 2 ^ ((num.log2 : Int) + 1) := lt_two_zpow_log2 num
    _ = 2 ^ ((num.log2 : Int) - den.log2 + 1) * 2 ^ (den.log2 : Int) := by
      rw [← zpow_add₀ (by norm_num)]
      congr 1
      omega
    _ ≤ 2 ^ ((num.log2 : Int) - den.log2 + 1) * den := by
      gcongr
      exact two_zpow_log2_le hden

theorem exists_exponentFor (hnum : 0 < num) (hden : 0 < den) :
    ∃ e : Int, exponentFor num den = max leastExponent e ∧
      (2 : ℚ) ^ (52 + e) ≤ num / den ∧ (num / den : ℚ) < 2 ^ (53 + e) := by
  have hlow := two_zpow_le_ratio hnum hden
  have hhigh := ratio_lt_two_zpow num hden
  unfold exponentFor
  -- The logarithms leave two exponents; the code tests which of them it is.
  generalize hguess : (num.log2 : Int) - den.log2 - 52 = guess
  have htest : (scaleDown num den guess).1 < (scaleDown num den guess).2 * twoTo 52 ↔
      (num / den : ℚ) < 2 ^ (52 + guess) := scaleDown_lt_iff hden guess 52
  have hbelow : (num.log2 : Int) - den.log2 - 1 = 52 + (guess - 1) := by omega
  have habove : (num.log2 : Int) - den.log2 + 1 = 53 + guess := by omega
  rw [hbelow] at hlow
  rw [habove] at hhigh
  by_cases hsmall : (num / den : ℚ) < 2 ^ (52 + guess)
  · have hshift : 53 + (guess - 1) = 52 + guess := by omega
    refine ⟨guess - 1, ?_, hlow, ?_⟩
    · dsimp only
      rw [if_pos (htest.mpr hsmall)]
    · rwa [hshift]
  · refine ⟨guess, ?_, le_of_not_gt hsmall, hhigh⟩
    dsimp only
    rw [if_neg (mt htest.mp hsmall)]

theorem two_zpow_greatestExponent : (2 : ℚ) ^ greatestExponent = 2 ^ 970 * 2 :=
  (zpow_natCast (2 : ℚ) 971).trans (pow_succ 2 970)

theorem two_zpow_add_greatestExponent (k : Nat) :
    (2 : ℚ) ^ (k + greatestExponent) = 2 ^ (k + 1) * 2 ^ 970 := by
  rw [zpow_add₀ (by norm_num), two_zpow_greatestExponent, zpow_natCast]
  generalize (2 : ℚ) ^ 970 = p
  ring

def mantissaAt (num den : Nat) (e : Int) : Nat :=
  roundDiv (scaleDown num den e).1 (scaleDown num den e).2

theorem mantissaAt_eq_twoTo_iff (hden : 0 < den)
    (hlt : (num / den : ℚ) < 2 ^ (53 + greatestExponent)) :
    mantissaAt num den greatestExponent = twoTo 53 ↔ overflow ≤ num / den := by
  have hpos : 0 < (scaleDown num den greatestExponent).2 := scaleDown_snd_pos hden _
  have hratio := scaleDown_ratio num hden greatestExponent
  have hbelow := (scaleDown_lt_iff hden greatestExponent 53).mpr hlt
  unfold mantissaAt
  generalize (scaleDown num den greatestExponent).1 = n at hratio hbelow ⊢
  generalize (scaleDown num den greatestExponent).2 = d at hpos hratio hbelow ⊢
  have hposQ : (0 : ℚ) < d := Nat.cast_pos.mpr hpos
  have hle : roundDiv n d ≤ twoTo 53 := roundDiv_le (by rwa [Nat.mul_comm])
  have hreach : 2 * 2 ^ 52 ≤ roundDiv n d ↔ (4 * 2 ^ 52 - 1) * d ≤ 2 * n :=
    le_roundDiv hpos (by norm_num)
  have htwice : 2 * 2 ^ 52 = twoTo 53 := by decide
  have hpow : (0 : ℚ) < 2 ^ 970 := pow_pos (by norm_num) 970
  have hscaled : (num / den : ℚ) = 2 ^ 970 * (2 * n / d) := by
    rw [eq_div_iff (zpow_pos (by norm_num) _).ne', two_zpow_greatestExponent] at hratio
    generalize (2 : ℚ) ^ 970 = p at hratio ⊢
    rw [← hratio]
    ring
  have hcast : (4 * 2 ^ 52 - 1) * d ≤ 2 * n ↔ (2 ^ 54 - 1 : ℚ) ≤ 2 * n / d := by
    rw [le_div_iff₀ hposQ]
    norm_num
    exact_mod_cast Iff.rfl
  have hoverflow : overflow ≤ num / den ↔ (2 ^ 54 - 1 : ℚ) ≤ 2 * n / d := by
    rw [hscaled, overflow, mul_comm, mul_le_mul_iff_right₀ hpow]
  rw [hoverflow, ← hcast, ← hreach, htwice]
  exact ⟨fun h => h.ge, fun h => le_antisymm hle h⟩

theorem ofRatio_eq (negative : Bool) (hnum : 0 < num) :
    ofRatio negative num den =
      if mantissaAt num den (exponentFor num den) = twoTo 53 then
        if greatestExponent < exponentFor num den + 1 then .infinite negative
        else .finite negative (twoTo 52) (exponentFor num den + 1)
      else if greatestExponent < exponentFor num den then .infinite negative
      else .finite negative (mantissaAt num den (exponentFor num den)) (exponentFor num den) := by
  unfold ofRatio
  rw [if_neg hnum.ne']
  extract_lets e
  split
  rename_i n d hscale
  extract_lets m
  have hm : mantissaAt num den e = m := by rw [mantissaAt, hscale]
  rw [hm]
  by_cases htop : m = twoTo 53
  · rw [if_pos htop, if_pos htop]
  · rw [if_neg htop, if_neg htop]

theorem isFinite_ofRatio_iff (negative : Bool) (hnum : 0 < num) :
    (ofRatio negative num den).isFinite ↔
      exponentFor num den < greatestExponent ∨ (exponentFor num den = greatestExponent ∧
        mantissaAt num den (exponentFor num den) ≠ twoTo 53) := by
  rw [ofRatio_eq negative hnum]
  split_ifs with htop he he
  · refine iff_of_false Bool.false_ne_true ?_
    rintro (hlt | ⟨-, hne⟩)
    · omega
    · exact hne htop
  · exact iff_of_true rfl (.inl (by omega))
  · refine iff_of_false Bool.false_ne_true ?_
    rintro (hlt | ⟨heq, -⟩) <;> omega
  · have hle : exponentFor num den < greatestExponent ∨ exponentFor num den = greatestExponent := by
      omega
    exact iff_of_true rfl (hle.imp_right fun h => ⟨h, htop⟩)

theorem one_le_overflow : 1 ≤ overflow :=
  one_le_mul_of_one_le_of_one_le (by norm_num) (one_le_pow₀ (by norm_num))

theorem ten_pow_le_overflow : 10 ^ 15 ≤ overflow :=
  calc (10 : ℚ) ^ 15 ≤ 2 ^ 54 - 1 := by norm_num
    _ ≤ overflow := le_mul_of_one_le_right (by norm_num) (one_le_pow₀ (by norm_num))

theorem overflow_le_ten_pow : overflow ≤ 10 ^ 310 := by
  have hbits : (2 : ℚ) ^ 54 * 2 ^ 970 = (2 ^ 256) ^ 4 := by rw [← pow_add, ← pow_mul]
  have hpow : (0 : ℚ) < 2 ^ 970 := pow_pos (by norm_num) 970
  calc overflow ≤ 2 ^ 54 * 2 ^ 970 := mul_le_mul_of_nonneg_right (by norm_num) hpow.le
    _ = (2 ^ 256) ^ 4 := hbits
    _ ≤ (2 * 10 ^ 77) ^ 4 := pow_le_pow_left₀ (by norm_num) (by norm_num) 4
    _ = 2 ^ 4 * 10 ^ 308 := by rw [mul_pow, ← pow_mul]
    _ ≤ 10 ^ 2 * 10 ^ 308 :=
      mul_le_mul_of_nonneg_right (by norm_num) (pow_pos (by norm_num) 308).le
    _ = 10 ^ 310 := by rw [← pow_add]

theorem two_zpow_lt_overflow {e : Int} (h : e < greatestExponent) :
    (2 : ℚ) ^ (53 + e) < overflow :=
  calc (2 : ℚ) ^ (53 + e) ≤ 2 ^ (52 + greatestExponent) :=
        zpow_le_zpow_right₀ (by norm_num) (by omega)
    _ = 2 ^ 53 * 2 ^ 970 := two_zpow_add_greatestExponent 52
    _ < overflow := mul_lt_mul_of_pos_right (by norm_num) (pow_pos (by norm_num) 970)

theorem overflow_lt_two_zpow {e : Int} (h : greatestExponent < e) : overflow < 2 ^ (52 + e) :=
  calc overflow < 2 ^ 54 * 2 ^ 970 :=
        mul_lt_mul_of_pos_right (by norm_num) (pow_pos (by norm_num) 970)
    _ = 2 ^ (53 + greatestExponent) := (two_zpow_add_greatestExponent 53).symm
    _ ≤ 2 ^ (52 + e) := zpow_le_zpow_right₀ (by norm_num) (by omega)

theorem isFinite_ofRatio (negative : Bool) (num : Nat) (hden : 0 < den) :
    (ofRatio negative num den).isFinite ↔ (num / den : ℚ) < overflow := by
  have hleast : leastExponent < greatestExponent := by decide
  rcases Nat.eq_zero_or_pos num with rfl | hnum
  · rw [ofRatio, if_pos rfl, Nat.cast_zero, zero_div]
    exact iff_of_true rfl (one_pos.trans_le one_le_overflow)
  · obtain ⟨e, he, hlow, hhigh⟩ := exists_exponentFor hnum hden
    rw [isFinite_ofRatio_iff negative hnum, he]
    rcases Int.lt_trichotomy e greatestExponent with hlt | rfl | hgt
    · exact iff_of_true (.inl (max_lt hleast hlt)) (hhigh.trans (two_zpow_lt_overflow hlt))
    · rw [max_eq_right hleast.le, ne_eq, mantissaAt_eq_twoTo_iff hden hhigh, not_le]
      simp
    · have hmax : greatestExponent < max leastExponent e := lt_max_of_lt_right hgt
      refine iff_of_false ?_ ((overflow_lt_two_zpow hgt).trans_le hlow).le.not_gt
      rintro (hlt | ⟨heq, -⟩)
      · exact absurd hlt hmax.le.not_gt
      · exact hmax.ne' heq

end Ratio

theorem decimalLength_le_iff {n k : Nat} (hn : 0 < n) : decimalLength n ≤ k ↔ n < 10 ^ k := by
  rw [decimalLength, if_neg hn.ne']
  rcases Nat.eq_zero_or_pos k with rfl | hk
  · have hlength : 0 < (Nat.toDigits 10 n).length := Nat.length_toDigits_pos
    rw [Nat.pow_zero]
    omega
  · exact Nat.length_toDigits_le_iff (by decide) hk

theorem magnitude_of_nonneg {x : Numeral} (h : 0 ≤ x.exponent) :
    ((x.coefficient * tenTo x.exponent.toNat : Nat) / (1 : Nat) : ℚ) = x.magnitude := by
  obtain ⟨n, hn⟩ := Int.eq_ofNat_of_zero_le h
  rw [Numeral.magnitude, tenTo_eq, hn]
  push_cast
  simp

theorem magnitude_of_neg {x : Numeral} (h : x.exponent < 0) :
    (x.coefficient / (tenTo (-x.exponent).toNat : Nat) : ℚ) = x.magnitude := by
  obtain ⟨n, hn⟩ : ∃ n : Nat, x.exponent = -n := ⟨(-x.exponent).toNat, by omega⟩
  rw [Numeral.magnitude, tenTo_eq, hn, neg_neg, Int.toNat_natCast, zpow_neg, zpow_natCast,
    div_eq_mul_inv]
  push_cast
  rfl

theorem length_add_exponent_le_iff {x : Numeral} (hx : 0 < x.coefficient) (k : Int) :
    (decimalLength x.coefficient : Int) + x.exponent ≤ k ↔ x.magnitude < 10 ^ k := by
  have hten : (0 : ℚ) < 10 ^ x.exponent := zpow_pos (by norm_num) _
  have hshift : x.magnitude < 10 ^ k ↔ (x.coefficient : ℚ) < 10 ^ (k - x.exponent) := by
    rw [Numeral.magnitude, zpow_sub₀ (by norm_num), lt_div_iff₀ hten]
  rw [hshift]
  rcases Int.lt_or_le (k - x.exponent) 0 with hneg | hnonneg
  · have hone : (10 : ℚ) ^ (k - x.exponent) ≤ 1 := zpow_le_one_of_nonpos₀ (by norm_num) hneg.le
    have hcoefficient : (1 : ℚ) ≤ x.coefficient := by exact_mod_cast hx
    exact iff_of_false (by omega) (hone.trans hcoefficient).not_gt
  · obtain ⟨j, hj⟩ := Int.eq_ofNat_of_zero_le hnonneg
    have hlength : (decimalLength x.coefficient : Int) + x.exponent ≤ k ↔
        decimalLength x.coefficient ≤ j := by omega
    rw [hlength, decimalLength_le_iff hx, hj, zpow_natCast]
    exact_mod_cast Iff.rfl

theorem isFinite_ofNumeral (x : Numeral) : (ofNumeral x).isFinite ↔ x.magnitude < overflow := by
  unfold ofNumeral
  dsimp only
  by_cases hzero : x.coefficient = 0
  · rw [if_pos hzero, Numeral.magnitude, hzero, Nat.cast_zero, zero_mul]
    exact iff_of_true rfl (one_pos.trans_le one_le_overflow)
  rw [if_neg hzero]
  have hpos : 0 < x.coefficient := Nat.pos_of_ne_zero hzero
  by_cases hhuge : 311 ≤ (decimalLength x.coefficient : Int) + x.exponent
  · have hvalue : ¬x.magnitude < 10 ^ (310 : Int) := by
      rw [← length_add_exponent_le_iff hpos]
      omega
    rw [if_pos hhuge]
    exact iff_of_false Bool.false_ne_true fun h => hvalue (h.trans_le overflow_le_ten_pow)
  rw [if_neg hhuge]
  by_cases htiny : (decimalLength x.coefficient : Int) + x.exponent ≤ -330
  · have hvalue : x.magnitude < 10 ^ (0 : Int) :=
      (length_add_exponent_le_iff hpos 0).mp (by omega)
    rw [zpow_zero] at hvalue
    rw [if_pos htiny]
    exact iff_of_true rfl (hvalue.trans_le one_le_overflow)
  rw [if_neg htiny]
  by_cases hexponent : 0 ≤ x.exponent
  · rw [if_pos hexponent, isFinite_ofRatio _ _ one_pos, magnitude_of_nonneg hexponent]
  · have hten : 0 < tenTo (-x.exponent).toNat := Nat.pow_pos (by decide)
    rw [if_neg hexponent, isFinite_ofRatio _ _ hten, magnitude_of_neg (not_le.mp hexponent)]

end Binary64

end QueryGate
