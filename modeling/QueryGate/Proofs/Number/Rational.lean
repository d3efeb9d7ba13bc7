import Mathlib.Data.Rat.Floor
import QueryGate.Proofs.Number.Range

/-!
# The rational numbers behind binary64 data

`Binary64.toRat?` is the number that a finite datum stands for, sign, mantissa and power of two
taken at their word. Truncation and rounding up are exact: `Binary64.truncate?_eq`, `Binary64.ceil?_eq`.
-/

set_option autoImplicit false

namespace QueryGate

def wholePart (q : ℚ) : Int := if 0 ≤ q then ⌊q⌋ else ⌈q⌉

theorem wholePart_intCast (n : Int) : wholePart n = n := by
  unfold wholePart
  split
  · exact Int.floor_intCast n
  · exact Int.ceil_intCast n

theorem wholePart_of_nonneg {q : ℚ} (h : 0 ≤ q) : wholePart q = ⌊q⌋ := if_pos h

theorem wholePart_le {q : ℚ} (h : 0 ≤ q) : (wholePart q : ℚ) ≤ q := by
  rw [wholePart_of_nonneg h]
  exact Int.floor_le q

theorem le_wholePart {n : Int} {q : ℚ} (h : 0 ≤ q) : n ≤ wholePart q ↔ (n : ℚ) ≤ q := by
  rw [wholePart_of_nonneg h, Int.le_floor]

theorem wholePart_neg (q : ℚ) : wholePart (-q) = -wholePart q := by
  unfold wholePart
  rcases lt_trichotomy q 0 with hneg | rfl | hpos
  · rw [if_pos (by linarith), if_neg (by linarith), Int.floor_neg]
  · simp
  · rw [if_neg (by linarith), if_pos hpos.le, Int.ceil_neg]

theorem one_le_wholePart {q : ℚ} : 1 ≤ wholePart q ↔ 1 ≤ q := by
  by_cases hq : 0 ≤ q
  · rw [wholePart_of_nonneg hq, Int.le_floor, Int.cast_one]
  · have hceil : ⌈q⌉ ≤ 0 := Int.ceil_le.mpr (by push_cast; linarith)
    rw [wholePart, if_neg hq]
    exact iff_of_false (by omega) (by linarith)

theorem wholePart_div (n : Int) (d : Nat) : wholePart (n / d) = n.tdiv d := by
  have hnonneg : ∀ k : Int, 0 ≤ k → wholePart (k / d) = k.tdiv d := by
    intro k hk
    have hquotient : (0 : ℚ) ≤ k / d := div_nonneg (by exact_mod_cast hk) (Nat.cast_nonneg d)
    rw [wholePart_of_nonneg hquotient, Rat.floor_intCast_div_natCast,
      Int.tdiv_eq_ediv_of_nonneg hk]
  rcases Int.le_total 0 n with hn | hn
  · exact hnonneg n hn
  · have hneg : (n : ℚ) / d = -((-n : Int) / d) := by
      push_cast
      ring
    rw [hneg, wholePart_neg, hnonneg (-n) (by omega), Int.neg_tdiv, neg_neg]

namespace Binary64

/-- The number that a finite datum stands for; no exponent counts for less than the least one. -/
def toRat? : Binary64 → Option ℚ
  | .finite negative m e =>
    let q : ℚ := m * 2 ^ max leastExponent e
    some (if negative then -q else q)
  | _ => none

theorem toRat?_eq_units (x : Binary64) :
    x.toRat? = x.units?.map fun n : Int => (n : ℚ) / twoTo 1074 := by
  cases x with
  | nan | infinite _ => rfl
  | finite negative m e =>
    have hpower : (2 : ℚ) ^ max leastExponent e =
        2 ^ (e - leastExponent).toNat / twoTo 1074 := by
      have hsplit : max leastExponent e = ((e - leastExponent).toNat : Int) - (1074 : Nat) := by
        have hleast : leastExponent = -1074 := rfl
        omega
      rw [hsplit, zpow_sub₀ (by norm_num), zpow_natCast, zpow_natCast, twoTo_eq, Nat.cast_pow,
        Nat.cast_ofNat]
    simp only [toRat?, units?, hpower, twoTo_eq (e - leastExponent).toNat, Option.map_some,
      Option.some.injEq]
    split <;> (push_cast; ring)

theorem truncate?_eq (x : Binary64) : x.truncate? = x.toRat?.map wholePart := by
  rw [toRat?_eq_units, truncate?, Option.map_map]
  congr 1
  funext n
  exact (wholePart_div n _).symm

theorem ceil?_eq (x : Binary64) : x.ceil? = x.toRat?.map Int.ceil := by
  rw [toRat?_eq_units, ceil?, Option.map_map]
  congr 1
  funext n
  have hfloor : (-n).fdiv (twoTo 1074) = ⌊((-n : Int) : ℚ) / (twoTo 1074 : Nat)⌋ := by
    rw [Rat.floor_intCast_div_natCast, Int.fdiv_eq_ediv_of_nonneg _ (Int.natCast_nonneg _)]
  rw [hfloor, Int.cast_neg, neg_div, Int.floor_neg, neg_neg]
  rfl

end Binary64

end QueryGate
