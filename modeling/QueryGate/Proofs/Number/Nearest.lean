import Mathlib.Algebra.Order.Round
import QueryGate.Proofs.Number.Range
import QueryGate.Proofs.Number.Rational

/-!
# Rounding to the nearest binary64 number

A quotient or a numeral that is not beyond the range is read as a binary64 number than which none is
nearer, at a distance of at most half a place of a mantissa of 53 bits. Main statement:
`Binary64.roundsTo_ofNumeral`. Rounding to a whole multiple of a power of two is nearest among the
multiples; finer numbers lie beyond the least mantissa of 53 bits, which is such a multiple.
-/

set_option autoImplicit false

namespace QueryGate

namespace Binary64

def IsBinary64 (q : ℚ) : Prop :=
  ∃ (m : Nat) (e : Int), m < 2 ^ 53 ∧ leastExponent ≤ e ∧ e ≤ greatestExponent ∧ |q| = m * 2 ^ e

def halfLeast : ℚ := 2 ^ leastExponent / 2

/-- No binary64 number is nearer to the value, and the distance is at most half a place of a
mantissa of 53 bits. -/
structure RoundsTo (value x : ℚ) : Prop where
  isBinary64 : IsBinary64 x
  nearest : ∀ y, IsBinary64 y → |x - value| ≤ |y - value|
  close : |x - value| ≤ max (value / 2 ^ 53) halfLeast

namespace RoundsTo

variable {value x y : ℚ}

theorem le_of_le (h : RoundsTo value x) (hy : IsBinary64 y) (hle : value ≤ y) : x ≤ y := by
  by_contra hlt
  have hnearest := h.nearest y hy
  rw [abs_of_nonneg (by linarith), abs_of_nonneg (by linarith)] at hnearest
  linarith

theorem ge_of_ge (h : RoundsTo value x) (hy : IsBinary64 y) (hle : y ≤ value) : y ≤ x := by
  by_contra hlt
  have hnearest := h.nearest y hy
  rw [abs_of_nonpos (by linarith), abs_of_nonpos (by linarith)] at hnearest
  linarith

end RoundsTo

theorem isBinary64_natCast {k : Nat} (h : k ≤ 2 ^ 53) : IsBinary64 k := by
  have habs : |(k : ℚ)| = k := abs_of_nonneg (Nat.cast_nonneg k)
  rcases h.lt_or_eq with hlt | rfl
  · exact ⟨k, 0, hlt, by decide, by decide, by rw [habs, zpow_zero, mul_one]⟩
  · exact ⟨2 ^ 52, 1, by norm_num, by decide, by decide, by rw [habs]; norm_num⟩

/-- The least whole number that is not below the value. -/
def IsCeiling (n : Int) (value : ℚ) : Prop := value ≤ n ∧ n < value + 1

/-- A whole number between a value and what it was rounded to, or at the lower of them. -/
def Separates (k : Int) (value x : ℚ) : Prop := x ≤ k ∧ k < value ∨ value ≤ k ∧ k < x

theorem isCeiling_ceil_iff (value x : ℚ) :
    IsCeiling ⌈x⌉ value ↔ ∀ k : Int, ¬Separates k value x := by
  constructor
  · rintro ⟨hle, hlt⟩ k (⟨hx, hk⟩ | ⟨hk, hx⟩)
    · have hceil : (⌈x⌉ : ℚ) ≤ k := by exact_mod_cast Int.ceil_le.mpr hx
      linarith
    · have hceil : (k : ℚ) + 1 ≤ ⌈x⌉ := by exact_mod_cast Int.lt_ceil.mpr hx
      linarith
  · intro hnone
    constructor
    · by_contra hshort
      exact hnone ⌈x⌉ (.inl ⟨Int.le_ceil x, not_le.mp hshort⟩)
    · by_contra hlong
      refine hnone (⌈x⌉ - 1) (.inr ⟨?_, ?_⟩)
      · push_cast
        linarith
      · push_cast
        linarith [Int.ceil_lt_add_one x]

namespace RoundsTo

variable {value x : ℚ}

section Small

variable (h : RoundsTo value x) (h0 : 0 ≤ value) (hsmall : value < 2 ^ 53)
include h h0 hsmall

theorem le_ceil : x ≤ ⌈value⌉ := by
  obtain ⟨k, hk⟩ := Int.eq_ofNat_of_zero_le (Int.ceil_nonneg h0)
  have hbound : ⌈value⌉ ≤ 2 ^ 53 := Int.ceil_le.mpr (by exact_mod_cast hsmall.le)
  have hcast : (⌈value⌉ : ℚ) = k := by rw [hk, Int.cast_natCast]
  rw [hcast]
  exact h.le_of_le (isBinary64_natCast (by omega)) (hcast ▸ Int.le_ceil value)

theorem floor_le : (⌊value⌋ : ℚ) ≤ x := by
  obtain ⟨k, hk⟩ := Int.eq_ofNat_of_zero_le (Int.floor_nonneg.mpr h0)
  have hbound : ⌊value⌋ < 2 ^ 53 := Int.floor_lt.mpr (by exact_mod_cast hsmall)
  have hcast : (⌊value⌋ : ℚ) = k := by rw [hk, Int.cast_natCast]
  rw [hcast]
  exact h.ge_of_ge (isBinary64_natCast (by omega)) (hcast ▸ Int.floor_le value)

theorem ceil_lt : (⌈x⌉ : ℚ) < value + 1 := by
  have hle : (⌈x⌉ : ℚ) ≤ ⌈value⌉ := by exact_mod_cast Int.ceil_le.mpr (h.le_ceil h0 hsmall)
  exact hle.trans_lt (Int.ceil_lt_add_one value)

/-- Rounding up misses a value that was first rounded down to the whole number below it. -/
theorem isCeiling_iff : IsCeiling ⌈x⌉ value ↔ (x = ⌊value⌋ → x = value) := by
  constructor
  · rintro ⟨hle, -⟩ hx
    rw [hx, Int.ceil_intCast] at hle
    exact hx.trans (le_antisymm (Int.floor_le value) hle)
  · intro hwhole
    refine ⟨?_, h.ceil_lt h0 hsmall⟩
    rcases (h.floor_le h0 hsmall).lt_or_eq with hlt | heq
    · have hnext : (⌊value⌋ : ℚ) + 1 ≤ ⌈x⌉ := by exact_mod_cast Int.lt_ceil.mpr hlt
      exact (Int.lt_floor_add_one value).le.trans hnext
    · rw [← hwhole heq.symm]
      exact Int.le_ceil x

end Small

theorem ceil_eq (h : RoundsTo value x) (hlarge : 2 ^ 53 ≤ value) : (⌈x⌉ : ℚ) = x := by
  have hx : 2 ^ 53 ≤ x := by
    have hpower := isBinary64_natCast (le_refl (2 ^ 53))
    push_cast at hpower
    exact h.ge_of_ge hpower hlarge
  obtain ⟨m, e, hm, -, -, habs⟩ := h.isBinary64
  have hpow : (0 : ℚ) < 2 ^ e := zpow_pos (by norm_num) e
  have hmantissa : (m : ℚ) < 2 ^ 53 := by exact_mod_cast hm
  rw [abs_of_nonneg (by linarith)] at habs
  have hexponent : 0 ≤ e := by
    by_contra hneg
    have hone : (2 : ℚ) ^ e ≤ 1 := zpow_le_one_of_nonpos₀ (by norm_num) (by omega)
    nlinarith
  obtain ⟨k, rfl⟩ := Int.eq_ofNat_of_zero_le hexponent
  have hwhole : x = ((m * 2 ^ k : Nat) : Int) := by
    rw [habs]
    push_cast
    rfl
  rw [hwhole, Int.ceil_intCast]

end RoundsTo

theorem abs_roundDiv_sub_le (num : Nat) {den : Nat} (hden : 0 < den) :
    |(roundDiv num den : ℚ) - num / den| ≤ 1 / 2 := by
  have hpos : (0 : ℚ) < den := Nat.cast_pos.mpr hden
  have hquotient : (num : ℚ) / den = (num / den : Nat) + (num % den : Nat) / den := by
    rw [div_eq_iff hpos.ne', add_mul, div_mul_cancel₀ _ hpos.ne', mul_comm]
    exact_mod_cast (Nat.div_add_mod num den).symm
  have hnonneg : (0 : ℚ) ≤ (num % den : Nat) / den := by positivity
  have hbelow : 2 * (num % den) ≤ den → ((num % den : Nat) / den : ℚ) ≤ 1 / 2 := by
    intro h
    rw [div_le_iff₀ hpos]
    have hcast : (2 * (num % den : Nat) : ℚ) ≤ den := by exact_mod_cast h
    linarith
  have habove : den ≤ 2 * (num % den) → (1 / 2 : ℚ) ≤ (num % den : Nat) / den := by
    intro h
    rw [le_div_iff₀ hpos]
    have hcast : (den : ℚ) ≤ 2 * (num % den : Nat) := by exact_mod_cast h
    linarith
  have hlast : ((num % den : Nat) / den : ℚ) ≤ 1 := by
    rw [div_le_one hpos]
    exact_mod_cast (Nat.mod_lt num hden).le
  rw [hquotient, abs_le]
  unfold roundDiv
  dsimp only
  generalize ((num % den : Nat) / den : ℚ) = part at *
  split_ifs with hlow hhigh
  · have := hbelow hlow.le
    constructor <;> linarith
  · have := habove hhigh.le
    push_cast
    constructor <;> linarith
  · -- a tie goes to either neighbour
    have hhalf : part = 1 / 2 := le_antisymm (hbelow (by omega)) (habove (by omega))
    rcases Nat.mod_two_eq_zero_or_one (num / den) with heven | hodd
    · rw [heven, hhalf]
      push_cast
      constructor <;> linarith
    · rw [hodd, hhalf]
      push_cast
      constructor <;> linarith

theorem abs_sub_le_of_le_half {q : ℚ} {m : Int} (h : |(m : ℚ) - q| ≤ 1 / 2) (j : Int) :
    |(m : ℚ) - q| ≤ |(j : ℚ) - q| := by
  by_cases hj : j = m
  · rw [hj]
  · have hapart : (1 : ℚ) ≤ |(j : ℚ) - m| := by
      have hint : 1 ≤ |j - m| := Int.one_le_abs (sub_ne_zero.mpr hj)
      exact_mod_cast hint
    have htriangle : |(j : ℚ) - m| ≤ |(j : ℚ) - q| + |(m : ℚ) - q| := by
      rw [abs_sub_comm (m : ℚ) q]
      exact abs_sub_le _ _ _
    linarith

section Ratio

variable {num den : Nat}

/-- The multiple of a power of two that a quotient is rounded to, as far as the mantissa goes. -/
def roundedAt (num den : Nat) (e : Int) : ℚ :=
  mantissaAt num den e * 2 ^ e

theorem roundedAt_eq (num : Nat) (hden : 0 < den) (e : Int) :
    ∃ m : Int, roundedAt num den e = m * 2 ^ e ∧
      |(m : ℚ) - num / den / 2 ^ e| ≤ 1 / 2 := by
  refine ⟨mantissaAt num den e, by simp [roundedAt], ?_⟩
  rw [← scaleDown_ratio num hden e, Int.cast_natCast]
  exact abs_roundDiv_sub_le _ (scaleDown_snd_pos hden e)

theorem abs_scaled (m q : ℚ) (e : Int) : |m * 2 ^ e - q| = |m - q / 2 ^ e| * 2 ^ e := by
  have hpow : (0 : ℚ) < 2 ^ e := zpow_pos (by norm_num) e
  have hfactor : m * 2 ^ e - q = (m - q / 2 ^ e) * 2 ^ e := by
    rw [sub_mul, div_mul_cancel₀ _ hpow.ne']
  rw [hfactor, abs_mul, abs_of_pos hpow]

theorem abs_roundedAt_sub_le (hden : 0 < den) (e : Int) :
    |roundedAt num den e - num / den| ≤ 2 ^ e / 2 := by
  obtain ⟨m, hm, hhalf⟩ := roundedAt_eq num hden e
  have hpow : (0 : ℚ) < 2 ^ e := zpow_pos (by norm_num) e
  rw [hm, abs_scaled]
  nlinarith

theorem abs_roundedAt_sub_le_multiple (hden : 0 < den) (e j : Int) :
    |roundedAt num den e - num / den| ≤ |(j : ℚ) * 2 ^ e - num / den| := by
  obtain ⟨m, hm, hhalf⟩ := roundedAt_eq num hden e
  rw [hm, abs_scaled, abs_scaled]
  exact mul_le_mul_of_nonneg_right (abs_sub_le_of_le_half hhalf j) (zpow_pos (by norm_num) e).le

theorem leastExponent_le_exponentFor (num den : Nat) : leastExponent ≤ exponentFor num den :=
  le_max_left _ _

theorem mantissa_carried (e : Int) : (2 ^ 52 : ℚ) * 2 ^ (e + 1) = 2 ^ 53 * 2 ^ e := by
  rw [zpow_add_one₀ (by norm_num)]
  ring

theorem toRat?_ofRatio (hnum : 0 < num) {x : ℚ} (h : (ofRatio false num den).toRat? = some x) :
    x = roundedAt num den (exponentFor num den) := by
  have hleast := leastExponent_le_exponentFor num den
  rw [ofRatio_eq false hnum] at h
  unfold roundedAt
  generalize exponentFor num den = e at h hleast ⊢
  split_ifs at h with htop he he
  · nomatch h
  · -- the mantissa was rounded up to the next power of two
    rw [toRat?, max_eq_right (by omega)] at h
    rw [← Option.some.inj h, htop, twoTo_eq, twoTo_eq]
    exact_mod_cast mantissa_carried e
  · nomatch h
  · rw [toRat?, max_eq_right hleast] at h
    exact (Option.some.inj h).symm

theorem mantissaAt_exponentFor_le (hnum : 0 < num) (hden : 0 < den) :
    mantissaAt num den (exponentFor num den) ≤ twoTo 53 := by
  obtain ⟨e, he, -, hhigh⟩ := exists_exponentFor hnum hden
  have hlt : (num / den : ℚ) < 2 ^ (53 + exponentFor num den) := by
    refine hhigh.trans_le (zpow_le_zpow_right₀ (by norm_num) ?_)
    omega
  refine roundDiv_le ?_
  rw [Nat.mul_comm]
  exact (scaleDown_lt_iff hden _ 53).mpr hlt

theorem isBinary64_roundedAt (hnum : 0 < num) (hden : 0 < den)
    (h : (ofRatio false num den).isFinite) :
    IsBinary64 (roundedAt num den (exponentFor num den)) := by
  have hleast := leastExponent_le_exponentFor num den
  have hmantissa := mantissaAt_exponentFor_le hnum hden
  have hrange := (isFinite_ofRatio_iff false hnum).mp h
  unfold roundedAt
  generalize exponentFor num den = e at hleast hmantissa hrange ⊢
  generalize mantissaAt num den e = m at hmantissa hrange ⊢
  have habs : |(m : ℚ) * 2 ^ e| = m * 2 ^ e := abs_of_nonneg (by positivity)
  by_cases htop : m = twoTo 53
  · refine ⟨2 ^ 52, e + 1, by norm_num, by omega, by omega, ?_⟩
    have hcarried := mantissa_carried e
    rw [habs, htop, twoTo_eq]
    exact_mod_cast hcarried.symm
  · rw [twoTo_eq] at hmantissa htop
    exact ⟨m, e, by omega, hleast, by omega, habs⟩

/-- A finer number than the multiples of the power of two is no nearer than the least mantissa of 53
bits, which is such a multiple. -/
theorem abs_sub_le_of_finer {q y : ℚ} {e e' : Int} {m : Nat} (hlow : (2 : ℚ) ^ (52 + e) ≤ q)
    (hm : m < 2 ^ 53) (he : e' < e) (hy : |y| = m * 2 ^ e') :
    |((2 ^ 52 : Int) : ℚ) * 2 ^ e - q| ≤ |y - q| := by
  have hpow : (0 : ℚ) < 2 ^ e' := zpow_pos (by norm_num) e'
  have hmantissa : (m : ℚ) < 2 ^ 53 := by exact_mod_cast hm
  have hleast : ((2 ^ 52 : Int) : ℚ) * 2 ^ e = 2 ^ (52 + e) := by
    rw [zpow_add₀ (by norm_num)]
    norm_num
  have hbelow : y ≤ 2 ^ (52 + e) :=
    calc y ≤ m * 2 ^ e' := hy ▸ le_abs_self y
      _ ≤ 2 ^ 53 * 2 ^ e' := mul_le_mul_of_nonneg_right hmantissa.le hpow.le
      _ = 2 ^ (53 + e') := by
        rw [zpow_add₀ (by norm_num)]
        norm_num
      _ ≤ 2 ^ (52 + e) := zpow_le_zpow_right₀ (by norm_num) (by omega)
  rw [hleast, abs_of_nonpos (by linarith), abs_of_nonpos (by linarith)]
  linarith

theorem exists_multiple_of_coarser {y : ℚ} {e e' : Int} {m : Nat} (he : e ≤ e')
    (hy : |y| = m * 2 ^ e') : ∃ j : Int, y = j * 2 ^ e := by
  obtain ⟨k, hk⟩ := Int.le.dest he
  have hscaled : |y| = (m * 2 ^ k : Nat) * 2 ^ e := by
    rw [hy, ← hk, zpow_add₀ (by norm_num), zpow_natCast]
    push_cast
    ring
  rcases abs_choice y with hpos | hneg
  · exact ⟨(m * 2 ^ k : Nat), by rw [← hpos, hscaled, Int.cast_natCast]⟩
  · refine ⟨-(m * 2 ^ k : Nat), ?_⟩
    rw [hneg] at hscaled
    rw [Int.cast_neg, Int.cast_natCast, neg_mul, ← hscaled, neg_neg]

theorem roundsTo_roundedAt (hnum : 0 < num) (hden : 0 < den)
    (h : (ofRatio false num den).isFinite) :
    RoundsTo (num / den) (roundedAt num den (exponentFor num den)) := by
  obtain ⟨e, he, hlow, -⟩ := exists_exponentFor hnum hden
  refine ⟨isBinary64_roundedAt hnum hden h, ?_, ?_⟩
  · rintro y ⟨m, e', hm, hleast, -, hy⟩
    rcases le_or_gt (exponentFor num den) e' with hcoarse | hfine
    · obtain ⟨j, rfl⟩ := exists_multiple_of_coarser hcoarse hy
      exact abs_roundedAt_sub_le_multiple hden _ j
    · -- below the least exponent there is nothing finer
      have heq : exponentFor num den = e := by omega
      rw [heq] at hfine ⊢
      exact (abs_roundedAt_sub_le_multiple hden e _).trans (abs_sub_le_of_finer hlow hm hfine hy)
  · refine (abs_roundedAt_sub_le hden _).trans ?_
    rw [he]
    rcases le_or_gt e leastExponent with hsmall | hlarge
    · rw [max_eq_left hsmall]
      exact le_max_right _ _
    · rw [max_eq_right hlarge.le]
      refine le_max_of_le_left ?_
      rw [zpow_add₀ (by norm_num)] at hlow
      rw [le_div_iff₀ (by norm_num)]
      norm_num at hlow ⊢
      linarith

end Ratio

theorem isFinite_of_toRat?_eq_some {x : Binary64} {q : ℚ} (h : x.toRat? = some q) :
    x.isFinite := by
  cases x with
  | nan | infinite _ => cases h
  | finite _ _ _ => rfl

theorem isBinary64_zero : IsBinary64 0 :=
  ⟨0, leastExponent, by norm_num, le_rfl, by decide, by norm_num⟩

theorem roundsTo_zero {value : ℚ} (h0 : 0 ≤ value) (h : value ≤ halfLeast) :
    RoundsTo value 0 := by
  have habs : |0 - value| = value := by rw [zero_sub, abs_neg, abs_of_nonneg h0]
  refine ⟨isBinary64_zero, ?_, ?_⟩
  · rintro y ⟨m, e, -, hleast, -, hy⟩
    rw [habs]
    rcases Nat.eq_zero_or_pos m with rfl | hm
    · rw [Nat.cast_zero, zero_mul, abs_eq_zero] at hy
      rw [hy, habs]
    · have hfar : 2 * halfLeast ≤ |y| :=
        calc 2 * halfLeast = 2 ^ leastExponent := mul_div_cancel₀ _ (by norm_num)
          _ ≤ 2 ^ e := zpow_le_zpow_right₀ (by norm_num) hleast
          _ ≤ m * 2 ^ e :=
            le_mul_of_one_le_left (zpow_pos (by norm_num) e).le (by exact_mod_cast hm)
          _ = |y| := hy.symm
      have htriangle := abs_sub_abs_le_abs_sub y value
      rw [abs_of_nonneg h0] at htriangle
      linarith
  · rw [habs]
    exact le_max_of_le_right h

theorem halfLeast_eq : halfLeast = 1 / 2 ^ 1075 := by
  have hsplit : (2 : ℚ) ^ leastExponent * 2 ^ 1075 = 2 := by
    rw [← zpow_natCast, ← zpow_add₀ (by norm_num)]
    exact zpow_one 2
  rw [halfLeast, eq_div_iff (pow_pos (by norm_num) _).ne', div_mul_eq_mul_div, hsplit,
    div_self (by norm_num)]

theorem ten_zpow_le_halfLeast : (10 : ℚ) ^ (-330 : Int) ≤ halfLeast := by
  have hpow : (2 : ℚ) ^ 1075 ≤ 10 ^ 330 :=
    calc (2 : ℚ) ^ 1075 = (2 ^ 43) ^ 25 := by rw [← pow_mul]
      _ ≤ (10 ^ 13) ^ 25 := pow_le_pow_left₀ (by norm_num) (by norm_num) 25
      _ = 10 ^ 325 := by rw [← pow_mul]
      _ ≤ 10 ^ 330 := pow_le_pow_right₀ (by norm_num) (by norm_num)
  have hneg : (10 : ℚ) ^ (-330 : Int) = 1 / 10 ^ 330 := by
    rw [zpow_neg, one_div]
    rfl
  rw [hneg, halfLeast_eq]
  exact one_div_le_one_div_of_le (pow_pos (by norm_num) _) hpow

theorem magnitude_nonneg (x : Numeral) : 0 ≤ x.magnitude :=
  mul_nonneg (Nat.cast_nonneg _) (zpow_pos (by norm_num) _).le

theorem halfLeast_lt : halfLeast < 10 ^ (-323 : Int) := by
  have hpow : (10 : ℚ) ^ 323 < 2 ^ 1075 :=
    calc (10 : ℚ) ^ 323 = 10 ^ 23 * (10 ^ 15) ^ 20 := by rw [← pow_mul, ← pow_add]
      _ < 9 ^ 20 * 2 ^ 15 * (10 ^ 15) ^ 20 :=
        mul_lt_mul_of_pos_right (by norm_num) (pow_pos (by norm_num) 20)
      _ = (9 * 10 ^ 15) ^ 20 * 2 ^ 15 := by rw [mul_pow]; ring
      _ ≤ (2 ^ 53) ^ 20 * 2 ^ 15 :=
        mul_le_mul_of_nonneg_right (pow_le_pow_left₀ (by norm_num) (by norm_num) 20) (by norm_num)
      _ = 2 ^ 1075 := by rw [← pow_mul, ← pow_add]
  have hneg : (10 : ℚ) ^ (-323 : Int) = 1 / 10 ^ 323 := by
    rw [zpow_neg, one_div]
    rfl
  rw [hneg, halfLeast_eq]
  exact one_div_lt_one_div_of_lt (pow_pos (by norm_num) _) hpow

/-- A decimal fraction of few digits lies too far from the other whole numbers to be rounded to
one. -/
theorem RoundsTo.eq_of_whole {c f : Nat} (hc : c < 2 ^ 53) (hf : f ≤ 323) {x : ℚ}
    (h : RoundsTo (c * 10 ^ (-f : Int)) x) {k : Int} (hx : x = k) :
    x = c * 10 ^ (-f : Int) := by
  have hplace : (0 : ℚ) < 10 ^ (-f : Int) := zpow_pos (by norm_num) _
  have hcoefficient : (c * 10 ^ (-f : Int) / 2 ^ 53 : ℚ) < 10 ^ (-f : Int) := by
    have hcast : (c : ℚ) < 2 ^ 53 := by exact_mod_cast hc
    rw [div_lt_iff₀ (by norm_num), mul_comm]
    exact mul_lt_mul_of_pos_left hcast hplace
  have hleast : halfLeast < 10 ^ (-f : Int) :=
    halfLeast_lt.trans_le (zpow_le_zpow_right₀ (by norm_num) (by omega))
  have hclose := h.close.trans_lt (max_lt hcoefficient hleast)
  -- in units of the last place both are whole numbers
  have hunits : x - c * 10 ^ (-f : Int) = ((k * 10 ^ f - c : Int) : ℚ) * 10 ^ (-f : Int) := by
    have hcancel : (10 : ℚ) ^ f * 10 ^ (-f : Int) = 1 := by
      rw [zpow_neg, zpow_natCast, mul_inv_cancel₀ (pow_pos (by norm_num) f).ne']
    rw [hx]
    push_cast
    rw [sub_mul, mul_assoc, hcancel, mul_one]
  rw [hunits, abs_mul, abs_of_pos hplace, mul_lt_iff_lt_one_left hplace] at hclose
  have hzero : k * 10 ^ f - c = 0 := Int.abs_lt_one_iff.mp (by exact_mod_cast hclose)
  rw [hzero, Int.cast_zero, zero_mul] at hunits
  exact sub_eq_zero.mp hunits

theorem roundsTo_ofNumeral {x : Numeral} (hsign : x.negative = false) {q : ℚ}
    (h : (ofNumeral x).toRat? = some q) : RoundsTo x.magnitude q := by
  have hzero : ∀ {value : ℚ}, (zero false).toRat? = some value → value = 0 := by
    intro value hvalue
    rw [← Option.some.inj hvalue]
    simp
  unfold ofNumeral at h
  dsimp only at h
  rw [hsign] at h
  by_cases hnone : x.coefficient = 0
  · rw [if_pos hnone] at h
    rw [hzero h]
    refine roundsTo_zero (magnitude_nonneg x) ?_
    rw [Numeral.magnitude, hnone, Nat.cast_zero, zero_mul, halfLeast]
    positivity
  rw [if_neg hnone] at h
  have hpos : 0 < x.coefficient := Nat.pos_of_ne_zero hnone
  -- Numerals far outside the range are answered from their length, without their power of ten.
  by_cases hhuge : 311 ≤ (decimalLength x.coefficient : Int) + x.exponent
  · rw [if_pos hhuge] at h
    cases h
  rw [if_neg hhuge] at h
  by_cases htiny : (decimalLength x.coefficient : Int) + x.exponent ≤ -330
  · rw [if_pos htiny] at h
    rw [hzero h]
    have hvalue := (length_add_exponent_le_iff hpos (-330)).mp htiny
    exact roundsTo_zero (magnitude_nonneg x) (hvalue.le.trans ten_zpow_le_halfLeast)
  rw [if_neg htiny] at h
  by_cases hexponent : 0 ≤ x.exponent
  · rw [if_pos hexponent] at h
    have hnum : 0 < x.coefficient * tenTo x.exponent.toNat :=
      Nat.mul_pos hpos (Nat.pow_pos (by decide))
    rw [toRat?_ofRatio hnum h, ← magnitude_of_nonneg hexponent]
    exact roundsTo_roundedAt hnum one_pos (isFinite_of_toRat?_eq_some h)
  · have hden : 0 < tenTo (-x.exponent).toNat := Nat.pow_pos (by decide)
    rw [if_neg hexponent] at h
    rw [toRat?_ofRatio hpos h, ← magnitude_of_neg (not_le.mp hexponent)]
    exact roundsTo_roundedAt hpos hden (isFinite_of_toRat?_eq_some h)

end Binary64

end QueryGate
