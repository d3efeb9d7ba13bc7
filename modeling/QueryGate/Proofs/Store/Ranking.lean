import Mathlib.Algebra.Group.Nat.Defs
import Mathlib.Order.Defs.LinearOrder
import QueryGate.Store.Select

/-!
# The order in which blogs are returned

The store compares the texts of moments character by character. Their fields have fixed widths, so
on moments of the calendar this is the order of time (`Timestamp.compareChars_storedText`), and
`Blog.comesFirst` is the order by creation and id (`Blog.comesFirst_iff`).
-/

set_option autoImplicit false

namespace QueryGate

namespace Scalar

theorem compareChars_cons (a b : Char) (as bs : List Char) :
    compareChars (a :: as) (b :: bs) = (compare a.toNat b.toNat).then (compareChars as bs) := by
  rw [compareChars]
  rcases Nat.lt_trichotomy a.toNat b.toNat with hlt | heq | hgt
  · rw [if_pos hlt, Nat.compare_eq_lt.mpr hlt, Ordering.lt_then]
  · rw [if_neg (by omega), if_neg (by omega), Nat.compare_eq_eq.mpr heq, Ordering.eq_then]
  · rw [if_neg (by omega), if_pos hgt, Nat.compare_eq_gt.mpr hgt, Ordering.gt_then]

theorem compareChars_eq_compareLex (as bs : List Char) :
    compareChars as bs = List.compareLex (compareOn Char.toNat) as bs := by
  induction as generalizing bs with
  | nil => cases bs <;> rfl
  | cons a as ih =>
    cases bs with
    | nil => rfl
    | cons b bs => rw [compareChars_cons, ih, List.compareLex_cons_cons, compareOn]

instance : Std.TransCmp compareChars := by
  have heq : compareChars = List.compareLex (compareOn Char.toNat) := by
    funext as bs
    exact compareChars_eq_compareLex as bs
  rw [heq]
  infer_instance

@[simp] theorem compareChars_cons_self (c : Char) (as bs : List Char) :
    compareChars (c :: as) (c :: bs) = compareChars as bs := by
  rw [compareChars_cons, Nat.compare_eq_eq.mpr rfl, Ordering.eq_then]

theorem compareChars_append {as bs : List Char} (h : as.length = bs.length) (xs ys : List Char) :
    compareChars (as ++ xs) (bs ++ ys) = (compareChars as bs).then (compareChars xs ys) := by
  induction as generalizing bs with
  | nil =>
    cases bs with
    | nil => rfl
    | cons b bs => nomatch h
  | cons a as ih =>
    cases bs with
    | nil => nomatch h
    | cons b bs =>
      rw [List.cons_append, List.cons_append, compareChars_cons, compareChars_cons,
        ih (Nat.succ.inj h), Ordering.then_assoc]

end Scalar

namespace Text

@[simp] theorem length_fixedDigits (width n : Nat) : (fixedDigits width n).length = width := by
  induction width generalizing n with
  | zero => rfl
  | succ width ih => simp [fixedDigits, ih]

theorem toNat_digitChar {n : Nat} (h : n < 10) : (Nat.digitChar n).toNat = n + 48 := by
  revert n
  decide

theorem compareChars_fixedDigits {width m n : Nat} (hm : m < 10 ^ width) (hn : n < 10 ^ width) :
    Scalar.compareChars (fixedDigits width m) (fixedDigits width n) = compare m n := by
  induction width generalizing m n with
  | zero =>
    obtain rfl : m = 0 := by omega
    obtain rfl : n = 0 := by omega
    rfl
  | succ width ih =>
    have hm' : m / 10 < 10 ^ width := by omega
    have hn' : n / 10 < 10 ^ width := by omega
    rw [fixedDigits, fixedDigits, Scalar.compareChars_append (by simp), ih hm' hn',
      Scalar.compareChars_cons, toNat_digitChar (by omega), toNat_digitChar (by omega)]
    rcases Nat.lt_trichotomy (m / 10) (n / 10) with hlt | heq | hgt
    · have hmn : m < n := by omega
      rw [Nat.compare_eq_lt.mpr hlt, Nat.compare_eq_lt.mpr hmn, Ordering.lt_then]
    · rw [Nat.compare_eq_eq.mpr heq, Ordering.eq_then]
      have hdigits : compare (m % 10 + 48) (n % 10 + 48) = compare m n := by
        rcases Nat.lt_trichotomy m n with hmn | rfl | hmn
        · rw [Nat.compare_eq_lt.mpr hmn, Nat.compare_eq_lt]
          omega
        · rw [Nat.compare_eq_eq.mpr rfl, Nat.compare_eq_eq.mpr rfl]
        · rw [Nat.compare_eq_gt.mpr hmn, Nat.compare_eq_gt]
          omega
      rw [hdigits]
      exact Ordering.then_eq
    · have hmn : n < m := by omega
      rw [Nat.compare_eq_gt.mpr hgt, Nat.compare_eq_gt.mpr hmn, Ordering.gt_then]

end Text

namespace Timestamp

def IsValid (t : Timestamp) : Prop :=
  ofNumbers? t.date.year t.date.month t.date.day t.hour t.minute t.second t.micro t.offset = some t

theorem IsValid.bounds {t : Timestamp} (h : t.IsValid) :
    t.date.year < 10 ^ 4 ∧ t.date.month < 10 ^ 2 ∧ t.date.day < 10 ^ 2 ∧ t.hour < 10 ^ 2 ∧
      t.minute < 10 ^ 2 ∧ t.second < 10 ^ 2 ∧ t.micro < 10 ^ 6 := by
  have hmonth : ∀ y m, Day.daysInMonth y m ≤ 31 := by
    intro y m
    unfold Day.daysInMonth
    split
    · split <;> omega
    · split <;> omega
  unfold IsValid ofNumbers? Day.ofNumbers? at h
  split at h
  · nomatch h
  · rename_i hday
    split at hday
    · rename_i hdate
      split at h
      · rename_i hclock
        have hlast := hmonth t.date.year t.date.month
        obtain ⟨-, hyear, -, hmon, -, hdom⟩ := hdate
        obtain ⟨hhour, hminute, hsecond, hmicro, -⟩ := hclock
        refine ⟨?_, ?_, ?_, ?_, ?_, ?_, ?_⟩ <;> omega
      · nomatch h
    · nomatch hday

/-- Texts of day and clock are in the order of the fields, whatever stands between the two, if what
follows is in the order of the microseconds. -/
theorem compareChars_dated {a b : Timestamp} (ha : a.IsValid) (hb : b.IsValid) (separator : Char)
    {xs ys : List Char} (hmicro : Scalar.compareChars xs ys = compare a.micro b.micro) :
    Scalar.compareChars (a.date.isoChars ++ separator :: a.clockChars ++ xs)
        (b.date.isoChars ++ separator :: b.clockChars ++ ys) =
      List.compareLex compare a.fields b.fields := by
  obtain ⟨hay, ham, had, hah, hai, has, -⟩ := ha.bounds
  obtain ⟨hby, hbm, hbd, hbh, hbi, hbs, -⟩ := hb.bounds
  simp only [Day.isoChars, clockChars, fields, List.append_assoc, List.cons_append]
  have hfront : ∀ {width m n : Nat} {xs ys : List Char}, m < 10 ^ width → n < 10 ^ width →
      Scalar.compareChars (Text.fixedDigits width m ++ xs) (Text.fixedDigits width n ++ ys) =
        (compare m n).then (Scalar.compareChars xs ys) := by
    intro width m n xs ys hm hn
    rw [Scalar.compareChars_append (by simp), Text.compareChars_fixedDigits hm hn]
  rw [hfront hay hby, Scalar.compareChars_cons_self, hfront ham hbm,
    Scalar.compareChars_cons_self, hfront had hbd, Scalar.compareChars_cons_self,
    hfront hah hbh, Scalar.compareChars_cons_self, hfront hai hbi,
    Scalar.compareChars_cons_self, hfront has hbs, hmicro]
  simp only [List.compareLex_cons_cons, List.compareLex_nil_nil, Ordering.then_eq]

theorem compareChars_storedText {a b : Timestamp} (ha : a.IsValid) (hb : b.IsValid) :
    Scalar.compareChars a.storedText.toList b.storedText.toList =
      List.compareLex compare a.fields b.fields := by
  obtain ⟨-, -, -, -, -, -, hau⟩ := ha.bounds
  obtain ⟨-, -, -, -, -, -, hbu⟩ := hb.bounds
  rw [storedText, storedText, String.toList_ofList, String.toList_ofList]
  refine compareChars_dated ha hb ' ' ?_
  rw [Scalar.compareChars_cons_self, Text.compareChars_fixedDigits hau hbu]

theorem compareLex_eq_lt {as bs : List Nat} : List.compareLex compare as bs = .lt ↔ as < bs := by
  induction as generalizing bs with
  | nil => cases bs <;> simp [List.compareLex_nil_nil, List.compareLex_nil_cons]
  | cons a as ih =>
    cases bs with
    | nil => simp [List.compareLex_cons_nil]
    | cons b bs =>
      rw [List.compareLex_cons_cons, Ordering.then_eq_lt, ih, Nat.compare_eq_lt,
        Nat.compare_eq_eq, List.cons_lt_cons_iff]

end Timestamp

namespace Blog

/-- Was the first blog created after the second, or at one time with it under a greater id? -/
def isNewer (a b : Blog) : Bool :=
  b.createdAt.isBefore a.createdAt ||
    (a.createdAt.fields == b.createdAt.fields && decide (b.id < a.id))

def compareCreation (a b : Blog) : Ordering :=
  Scalar.compareChars a.createdAt.storedText.toList b.createdAt.storedText.toList

instance : Std.TransCmp compareCreation where
  eq_swap {_ _} := @Std.OrientedCmp.eq_swap _ Scalar.compareChars _ _ _
  isLE_trans {_ _ _} hab hbc := @Std.TransCmp.isLE_trans _ Scalar.compareChars _ _ _ _ hab hbc

theorem comesFirst_iff {a b : Blog} : a.comesFirst b ↔
    compareCreation a b = .gt ∨ (compareCreation a b = .eq ∧ b.id ≤ a.id) := by
  unfold comesFirst compareCreation
  split <;> simp_all

theorem comesFirst_total (a b : Blog) : (a.comesFirst b || b.comesFirst a) = true := by
  have hswap : compareCreation b a = (compareCreation a b).swap := Std.OrientedCmp.eq_swap
  rw [Bool.or_eq_true, comesFirst_iff, comesFirst_iff, hswap]
  rcases compareCreation a b with _ | _ | _
  · simp
  · simp
    omega
  · simp

theorem comesFirst_trans (a b c : Blog) (hab : a.comesFirst b) (hbc : b.comesFirst c) :
    a.comesFirst c := by
  rw [comesFirst_iff] at hab hbc ⊢
  rcases hab with hab | ⟨hab, hid⟩
  · rcases hbc with hbc | ⟨hbc, -⟩
    · exact .inl (Std.TransCmp.gt_trans hab hbc)
    · exact .inl (Std.TransCmp.gt_of_gt_of_eq hab hbc)
  · rcases hbc with hbc | ⟨hbc, hid'⟩
    · exact .inl (Std.TransCmp.gt_of_eq_of_gt hab hbc)
    · exact .inr ⟨Std.TransCmp.eq_trans hab hbc, by omega⟩

theorem id_eq_of_comesFirst {a b : Blog} (hab : a.comesFirst b) (hba : b.comesFirst a) :
    a.id = b.id := by
  have hswap : compareCreation b a = (compareCreation a b).swap := Std.OrientedCmp.eq_swap
  rw [comesFirst_iff] at hab hba
  rw [hswap] at hba
  rcases hab with hgt | ⟨heq, hle⟩
  · rw [hgt] at hba
    simp at hba
  · rw [heq] at hba
    have hge : a.id ≤ b.id := by simpa using hba
    omega

theorem comesFirst_congr {a b a' b' : Blog} (ha : a.createdAt = a'.createdAt ∧ a.id = a'.id)
    (hb : b.createdAt = b'.createdAt ∧ b.id = b'.id) : a.comesFirst b = a'.comesFirst b' := by
  rw [comesFirst, comesFirst, ha.1, ha.2, hb.1, hb.2]

theorem comesFirst_iff_isNewer {a b : Blog} (ha : a.createdAt.IsValid) (hb : b.createdAt.IsValid) :
    a.comesFirst b ↔ a.isNewer b ∨ (a.createdAt.fields = b.createdAt.fields ∧ a.id = b.id) := by
  have hgt : compareCreation a b = .gt ↔ b.createdAt.fields < a.createdAt.fields := by
    rw [compareCreation, Timestamp.compareChars_storedText ha hb, Std.OrientedCmp.gt_iff_lt,
      Timestamp.compareLex_eq_lt]
  have heq : compareCreation a b = .eq ↔ a.createdAt.fields = b.createdAt.fields := by
    rw [compareCreation, Timestamp.compareChars_storedText ha hb]
    exact Std.LawfulEqCmp.compare_eq_iff_eq
  rw [comesFirst_iff, hgt, heq, isNewer, Bool.or_eq_true, Bool.and_eq_true, beq_iff_eq,
    Timestamp.isBefore, decide_eq_true_eq, decide_eq_true_eq, or_assoc, ← and_or_left,
    Int.le_iff_lt_or_eq, eq_comm (a := b.id)]

theorem isNewer_of_comesFirst {a b : Blog} (ha : a.createdAt.IsValid) (hb : b.createdAt.IsValid)
    (h : a.comesFirst b) (hne : a.id ≠ b.id) : a.isNewer b :=
  ((comesFirst_iff_isNewer ha hb).mp h).resolve_right fun hsame => hne hsame.2

end Blog

end QueryGate
