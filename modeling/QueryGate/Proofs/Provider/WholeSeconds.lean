import QueryGate.Proofs.Number.Nearest
import QueryGate.Proofs.Provider.FirstNumeral

/-!
# How long a text asks to wait

The delay is the first numeral of the text, rounded to a binary64 number and then up to whole
seconds. Rounding twice is rounding up once, unless a whole number lies between the numeral and its
binary64 number. Main statement: `RetryDelay.ofValue_isCeiling_iff`.
-/

set_option autoImplicit false

namespace QueryGate.RetryDelay

/-- The seconds that a numeral writes. -/
def asked (whole fraction : List Char) : ℚ := (written whole fraction).magnitude

theorem ofValue_eq_some_iff {s : String} {n : Int} :
    ofValue (.text s) = .ok (some n) ↔
      ∃ x, numeral? s.toList = some x ∧ (Binary64.ofNumeral x).ceil? = some n := by
  show ofText s = .ok (some n) ↔ _
  unfold ofText
  cases numeral? s.toList with
  | none => simp
  | some x =>
    simp only [Option.some.injEq, exists_eq_left']
    unfold seconds
    cases (Binary64.ofNumeral x).ceil? with
    | none => simp [Except.map]
    | some m => simp [Except.map]

/-- The delay is the binary64 number nearest to the first numeral, rounded up. It is the numeral
rounded up as long as no whole number separates the two. Below the 53rd power of two it is never too
long, and too short only for a numeral that is rounded down to the whole number below it; from there
on it is the binary64 number itself. Numerals of few digits are rounded up exactly. -/
theorem ofValue_isCeiling_iff {s : String} {whole fraction : List Char} {n : Int}
    (hfirst : FirstNumeral s.toList whole fraction) (hn : ofValue (.text s) = .ok (some n)) :
    ∃ x : ℚ, (Binary64.ofNumeral (written whole fraction)).toRat? = some x ∧
      Binary64.RoundsTo (asked whole fraction) x ∧ n = ⌈x⌉ ∧
      (Binary64.IsCeiling n (asked whole fraction) ↔
        ∀ k : Int, ¬Binary64.Separates k (asked whole fraction) x) ∧
      (asked whole fraction < 2 ^ 53 → n < asked whole fraction + 1 ∧
        (Binary64.IsCeiling n (asked whole fraction) ↔
          (x = ⌊asked whole fraction⌋ → x = asked whole fraction))) ∧
      (2 ^ 53 ≤ asked whole fraction → n = x) ∧
      ((written whole fraction).coefficient < 2 ^ 53 → fraction.length ≤ 323 →
        Binary64.IsCeiling n (asked whole fraction)) := by
  obtain ⟨numeral, hnumeral, hceil⟩ := ofValue_eq_some_iff.mp hn
  obtain rfl : written whole fraction = numeral :=
    Option.some.inj ((numeral?_of_firstNumeral hfirst).symm.trans hnumeral)
  rw [Binary64.ceil?_eq] at hceil
  obtain ⟨x, hx, rfl⟩ := Option.map_eq_some_iff.mp hceil
  have hround : Binary64.RoundsTo (asked whole fraction) x := Binary64.roundsTo_ofNumeral rfl hx
  have h0 : 0 ≤ asked whole fraction := Binary64.magnitude_nonneg _
  refine ⟨x, hx, hround, rfl, Binary64.isCeiling_ceil_iff _ _, ?_, hround.ceil_eq, ?_⟩
  · intro hsmall
    exact ⟨hround.ceil_lt h0 hsmall, hround.isCeiling_iff h0 hsmall⟩
  · intro hcoefficient hlength
    have hsmall : asked whole fraction < 2 ^ 53 :=
      (magnitude_written_le whole fraction).trans_lt (by exact_mod_cast hcoefficient)
    refine (hround.isCeiling_iff h0 hsmall).mpr fun hwhole => ?_
    exact hround.eq_of_whole hcoefficient hlength hwhole

theorem ofValue_isCeiling_iff_tenths :
    FirstNumeral "13.5s".toList ['1', '3'] ['5'] ∧ ofValue (.text "13.5s") = .ok (some 14) ∧
      Binary64.IsCeiling 14 (asked ['1', '3'] ['5']) := by
  have hfirst : FirstNumeral "13.5s".toList ['1', '3'] ['5'] :=
    @firstNumeral_takeWhile "13.5s".toList (by decide +kernel)
  have hdelay : ofValue (.text "13.5s") = .ok (some 14) :=
    ofValue_eq_some_iff.mpr ⟨⟨false, 135, -1⟩, by decide +kernel, by decide +kernel⟩
  obtain ⟨x, -, -, -, -, -, -, hfew⟩ := ofValue_isCeiling_iff hfirst hdelay
  exact ⟨hfirst, hdelay, hfew (by decide +kernel) (by decide)⟩

/-- Between the 52nd and the 53rd power of two only halves are left, so that three tenths of a
second are rounded away. -/
theorem tenths_rounded_away :
    FirstNumeral "4503599627370496.3s".toList "4503599627370496".toList ['3'] ∧
      ofValue (.text "4503599627370496.3s") = .ok (some 4503599627370496) ∧
      ¬Binary64.IsCeiling 4503599627370496 (asked "4503599627370496".toList ['3']) := by
  refine ⟨?_, ?_, ?_⟩
  · have hrun := @firstNumeral_takeWhile "4503599627370496.3s".toList (by decide +kernel)
    have hwhole : "4503599627370496.3s".toList.takeWhile Text.isDigit =
        "4503599627370496".toList := by decide +kernel
    have hfraction : behindPoint ("4503599627370496.3s".toList.dropWhile Text.isDigit) = ['3'] := by
      decide +kernel
    rwa [hwhole, hfraction] at hrun
  · exact ofValue_eq_some_iff.mpr
      ⟨⟨false, 45035996273704963, -1⟩, by decide +kernel, by decide +kernel⟩
  · rintro ⟨hle, -⟩
    have hnumeral : written "4503599627370496".toList ['3'] = ⟨false, 45035996273704963, -1⟩ := by
      decide +kernel
    rw [asked, hnumeral] at hle
    norm_num [Numeral.magnitude] at hle

end QueryGate.RetryDelay
