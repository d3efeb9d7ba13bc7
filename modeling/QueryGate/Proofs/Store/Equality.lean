import QueryGate.Proofs.Store.Condition
import QueryGate.Proofs.Store.Ranking

/-!
# What equals a value of an answer

A number or a text of an answer equals the cells that it was shown for, and no others. A moment is
shown in another form than the store compares, so that nothing equals it. Main statement:
`Condition.holds_equals_toValue`.
-/

set_option autoImplicit false

namespace QueryGate

namespace Scalar

theorem compareChars_eq_eq {as bs : List Char} : compareChars as bs = .eq ↔ as = bs := by
  induction as generalizing bs with
  | nil => cases bs <;> simp [compareChars]
  | cons a as ih =>
    cases bs with
    | nil => simp [compareChars]
    | cons b bs =>
      rw [compareChars_cons, Ordering.then_eq_eq, Nat.compare_eq_eq, ih, List.cons.injEq,
        Char.toNat_inj]

theorem order_text_real_ne_eq (t : String) (x : Binary64) :
    (Scalar.text t).order (.real x) ≠ some .eq := by
  have horder : (Scalar.text t).order (.real x) = if x = .nan then none else some .gt := rfl
  rw [horder]
  split <;> simp

theorem order_text_of_numericText? {s t : String} {v : Scalar} (h : numericText? s = some v) :
    (Scalar.text t).order v ≠ some .eq := by
  obtain ⟨x, -, rfl⟩ := Option.map_eq_some_iff.mp h
  dsimp only
  generalize (if x.negative then -(x.coefficient : Int) else x.coefficient) = n
  split
  · simp [order]
  · exact order_text_real_ne_eq t _

end Scalar

namespace Timestamp

theorem length_isoChars (d : Day) : d.isoChars.length = 10 := by
  simp [Day.isoChars]

theorem storedText_ne_isoText (t u : Timestamp) : t.storedText ≠ u.isoText := by
  intro h
  have hchars := congrArg String.toList h
  rw [storedText, isoText, String.toList_ofList, String.toList_ofList, List.append_assoc,
    List.append_assoc] at hchars
  have hdays : t.date.isoChars.length = u.date.isoChars.length := by
    rw [length_isoChars, length_isoChars]
  exact absurd (List.cons.inj (List.append_inj_right hchars hdays)).1 (by decide)

end Timestamp

namespace Condition

theorem holds_equals (v : Value) (cell : Cell) : holds ⟨"equals", v⟩ cell =
    Comparison.equal.test cell.kind cell.scalar v.momentText.parameter := by
  have hop : Operator.ofName? "equals" = some .equals := Operator.ofName?_name .equals
  rw [holds, hop]
  rfl

theorem holds_equals_text (name text : String) :
    holds ⟨"equals", .text name⟩ (.text text) = (text == name) := by
  have horder : holds ⟨"equals", .text name⟩ (.text text) =
      (Scalar.compareChars text.toList name.toList == .eq) := holds_equals _ _
  rw [horder, Bool.eq_iff_iff, beq_iff_eq, beq_iff_eq, Scalar.compareChars_eq_eq, String.toList_inj]

theorem holds_equals_int (m n : Int) : holds ⟨"equals", .int n⟩ (.int m) = (m == n) := by
  have horder : holds ⟨"equals", .int n⟩ (.int m) = (compare m n == .eq) := holds_equals _ _
  rw [horder, Bool.eq_iff_iff, beq_iff_eq, beq_iff_eq, Std.LawfulEqCmp.compare_eq_iff_eq]

theorem holds_equals_isoText (t u : Timestamp) :
    holds ⟨"equals", .text u.isoText⟩ (.moment t) = false := by
  have horder : holds ⟨"equals", .text u.isoText⟩ (.moment t) =
      ((Scalar.text t.storedText).order ((Scalar.numericText? u.isoText).getD
        (.text u.isoText))).any Comparison.equal.holds := holds_equals _ _
  rw [horder, Option.any_eq_false]
  intro o ho
  rw [Comparison.holds, beq_eq_false_iff_ne]
  rintro rfl
  cases hnumber : Scalar.numericText? u.isoText with
  | some v =>
    rw [hnumber] at ho
    exact Scalar.order_text_of_numericText? hnumber ho
  | none =>
    rw [hnumber] at ho
    have htexts := Scalar.compareChars_eq_eq.mp (Option.some.inj ho)
    exact Timestamp.storedText_ne_isoText t u (String.toList_inj.mp htexts)

/-- Of the cells of one column, the shown value of a cell equals the cell itself, unless it is a
moment. -/
theorem holds_equals_toValue {shown cell : Cell} (h : cell.kind = shown.kind) :
    holds ⟨"equals", shown.toValue⟩ cell ↔ cell = shown ∧ shown.kind ≠ .moment := by
  cases shown with
  | int n =>
    cases cell with
    | int m => simp [Cell.toValue, holds_equals_int, Cell.kind]
    | _ => cases h
  | text s =>
    cases cell with
    | text t => simp [Cell.toValue, holds_equals_text, Cell.kind]
    | _ => cases h
  | moment u =>
    cases cell with
    | moment t => simp [Cell.toValue, holds_equals_isoText, Cell.kind]
    | _ => cases h

end Condition

end QueryGate
