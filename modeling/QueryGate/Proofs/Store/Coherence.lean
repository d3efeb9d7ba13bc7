import Mathlib.Logic.Basic
import QueryGate.Proofs.Store.Selection

/-!
# How the operators agree with one another

Numbers come before texts, and a column may turn the operand into the other of the two, so that
every cell has its place before, at or behind every operand that is a text or a number. The four
comparisons are the four ways to read that place. Main statements: `Operator.holds_complement`,
`Operator.holds_equals_eq` and `Operator.holds_oneOf`.
-/

set_option autoImplicit false

namespace QueryGate

namespace Binary64

theorem ofRatio_ne_nan (negative : Bool) (num den : Nat) : ofRatio negative num den ≠ .nan := by
  unfold ofRatio
  by_cases hzero : num = 0
  · rw [if_pos hzero, zero]
    exact nofun
  rw [if_neg hzero]
  extract_lets e
  split
  extract_lets m
  split
  split <;> exact nofun

theorem isSome_orderInt (x : Binary64) (n : Int) : (x.orderInt n).isSome = decide (x ≠ .nan) := by
  cases x <;> rfl

theorem isSome_order (x y : Binary64) :
    (x.order y).isSome = (decide (x ≠ .nan) && decide (y ≠ .nan)) := by
  cases x <;> cases y <;> rfl

end Binary64

theorem WideFloat.toBinary64_ne_nan (negative : Bool) (x : WideFloat) :
    x.toBinary64 negative ≠ .nan := by
  unfold toBinary64
  split
  · exact nofun
  · exact Binary64.ofRatio_ne_nan _ _ _

namespace Scalar

def isPlaced : Scalar → Bool
  | .null => false
  | .real x => decide (x ≠ .nan)
  | .int _ | .text _ => true

theorem isSome_order (x y : Scalar) : (x.order y).isSome = (x.isPlaced && y.isPlaced) := by
  have hreal : ∀ (z : Binary64) (o : Ordering), (if z = .nan then none else some o).isSome =
      decide (z ≠ .nan) := by
    intro z o
    by_cases hz : z = .nan <;> simp [hz]
  cases x with
  | null => rfl
  | int m =>
    cases y with
    | null => rfl
    | int n => rfl
    | real z => exact Option.isSome_map.trans (z.isSome_orderInt m)
    | text t => rfl
  | real z =>
    cases y with
    | null => exact (Bool.and_false _).symm
    | int n => exact (z.isSome_orderInt n).trans (Bool.and_true _).symm
    | real z' => exact z.isSome_order z'
    | text t => exact (hreal z .lt).trans (Bool.and_true _).symm
  | text s =>
    cases y with
    | null => rfl
    | int n => rfl
    | real z => exact hreal z .gt
    | text t => rfl

theorem isPlaced_of_numericText? {s : String} {v : Scalar} (h : numericText? s = some v) :
    v.isPlaced := by
  obtain ⟨x, -, rfl⟩ := Option.map_eq_some_iff.mp h
  dsimp only
  generalize (if x.negative then -(x.coefficient : Int) else x.coefficient) = n
  split
  · rfl
  · exact decide_eq_true (WideFloat.toBinary64_ne_nan _ _)

theorem isPlaced_forColumn {v : Scalar} (h : v.isPlaced) (kind : ColumnKind) :
    (v.forColumn kind).isPlaced := by
  have hnumber : ∀ s : String, ((numericText? s).getD (.text s)).isPlaced := by
    intro s
    cases hs : numericText? s with
    | none => rfl
    | some v => exact isPlaced_of_numericText? hs
  cases v with
  | null => nomatch h
  | int n => cases kind <;> rfl
  | real x =>
    cases kind with
    | text => rfl
    | integer | moment => exact h
  | text s =>
    cases kind with
    | text => rfl
    | integer | moment => exact hnumber s

end Scalar

namespace Value

def isOrdered : Value → Bool
  | .text _ => true
  | .int n => fits64 n
  | .float x => decide (x ≠ .nan)
  | _ => false

def AreUniform (vs : List Value) : Prop :=
  (∀ v ∈ vs, ∃ s, v = .text s) ∨ ∀ v ∈ vs, ∃ n, v = .int n ∧ fits64 n

theorem isPlaced_parameter {v : Value} (h : v.isOrdered) : v.momentText.parameter.isPlaced := by
  cases v with
  | text s => rfl
  | int n => rfl
  | float x =>
    have hx : x ≠ .nan := of_decide_eq_true h
    show Scalar.isPlaced (if x = .nan then .null else .real x)
    rw [if_neg hx]
    exact h
  | _ => nomatch h

theorem AreUniform.member {vs : List Value} (h : AreUniform vs) (kind : ColumnKind)
    {first v : Value} (hfirst : first ∈ vs) (hv : v ∈ vs) :
    isMember kind first v ∧ memberParameter kind first v = v.momentText.parameter := by
  rcases h with htexts | hints
  · obtain ⟨s, rfl⟩ := htexts first hfirst
    obtain ⟨t, rfl⟩ := htexts v hv
    exact ⟨rfl, rfl⟩
  · obtain ⟨m, rfl, -⟩ := hints first hfirst
    obtain ⟨n, rfl, hn⟩ := hints v hv
    exact ⟨hn, rfl⟩

end Value

namespace Operator

/-- The comparison that holds where the operator does not, if it is one side of a range. -/
def complement? : Operator → Option Operator
  | .below => some .atLeast
  | .atMost => some .above
  | .above => some .atMost
  | .atLeast => some .below
  | .equals | .contains | .oneOf => none

variable {v : Value} (hv : v.isOrdered)
include hv

theorem exists_place (cell : Cell) :
    ∃ o : Ordering, ∀ op comparison, comparison? op = some comparison →
      op.holds cell v = comparison.holds o := by
  have hcell : cell.scalar.isPlaced := by cases cell <;> rfl
  have hplaced := Scalar.isPlaced_forColumn (Value.isPlaced_parameter hv) cell.kind
  have hsome : (cell.scalar.order (v.momentText.parameter.forColumn cell.kind)).isSome := by
    rw [Scalar.isSome_order, hcell, hplaced]
    rfl
  obtain ⟨o, ho⟩ := Option.isSome_iff_exists.mp hsome
  refine ⟨o, ?_⟩
  intro op comparison hop
  have htest : comparison.test cell.kind cell.scalar v.momentText.parameter =
      comparison.holds o := by
    rw [Comparison.test, ho, Option.any_some]
  cases op <;> cases hop <;> exact htest

theorem holds_complement {op op' : Operator} (hop : op.complement? = some op') (cell : Cell) :
    op'.holds cell v = !op.holds cell v := by
  obtain ⟨o, ho⟩ := exists_place hv cell
  cases op with
  | equals | contains | oneOf => nomatch hop
  | below =>
    cases hop
    rw [ho .atLeast _ rfl, ho .below _ rfl]
    cases o <;> rfl
  | atMost =>
    cases hop
    rw [ho .above _ rfl, ho .atMost _ rfl]
    cases o <;> rfl
  | above =>
    cases hop
    rw [ho .above _ rfl, ho .atMost _ rfl]
    cases o <;> rfl
  | atLeast =>
    cases hop
    rw [ho .atLeast _ rfl, ho .below _ rfl]
    cases o <;> rfl

theorem holds_equals_eq (cell : Cell) :
    equals.holds cell v = (atMost.holds cell v && atLeast.holds cell v) := by
  obtain ⟨o, ho⟩ := exists_place hv cell
  rw [ho .equals _ rfl, ho .atMost _ rfl, ho .atLeast _ rfl]
  cases o <;> rfl

omit hv in
theorem holds_oneOf {vs : List Value} (h : Value.AreUniform vs) (cell : Cell) :
    oneOf.holds cell (.list vs) = vs.any fun v => equals.holds cell v := by
  cases vs with
  | nil => rfl
  | cons first rest =>
    have hmember : ∀ v ∈ first :: rest,
        Value.memberParameter cell.kind first v = v.momentText.parameter :=
      fun v hv => (h.member cell.kind List.mem_cons_self hv).2
    show ((first :: rest).any fun u =>
      Comparison.equal.test cell.kind cell.scalar (Value.memberParameter cell.kind first u)) = _
    rw [Bool.eq_iff_iff, List.any_eq_true, List.any_eq_true]
    refine exists_congr fun v => and_congr_right fun hv => ?_
    rw [hmember v hv]
    rfl

end Operator

end QueryGate
