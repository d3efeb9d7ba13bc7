import Mathlib.Algebra.Group.Nat.Defs
import Mathlib.Data.List.Induction
import QueryGate.Number.Numeral

/-!
# Runs of digits

A reader without separators takes the longest run of digits at the front. So many digits write a
number below that power of ten.
-/

set_option autoImplicit false

namespace QueryGate

theorem Text.digitValue?_lt {c : Char} {d : Nat} (h : Text.digitValue? c = some d) : d < 10 := by
  obtain ⟨z, hz, rfl⟩ := Option.map_eq_some_iff.mp h
  have hrange := List.find?_some hz
  rw [Bool.and_eq_true, decide_eq_true_iff, decide_eq_true_iff] at hrange
  omega

namespace Numeral

theorem ofDigits_lt {ds : List Nat} (h : ∀ d ∈ ds, d < 10) : ofDigits ds < 10 ^ ds.length := by
  induction ds using List.reverseRecOn with
  | nil => decide
  | append_singleton ds d ih =>
    obtain ⟨hds, hd⟩ := List.forall_mem_append.mp h
    have hlast : d < 10 := hd d (List.mem_singleton_self d)
    have hstep : ofDigits (ds ++ [d]) = 10 * ofDigits ds + d := by
      rw [ofDigits, List.foldl_append]
      rfl
    rw [hstep, List.length_append, List.length_singleton, Nat.pow_succ]
    have hfront := ih hds
    omega

theorem ofDigits_filterMap_lt (cs : List Char) :
    ofDigits (cs.filterMap Text.digitValue?) < 10 ^ cs.length := by
  have hdigits : ∀ d ∈ cs.filterMap Text.digitValue?, d < 10 := by
    intro d hd
    obtain ⟨c, -, hc⟩ := List.mem_filterMap.mp hd
    exact Text.digitValue?_lt hc
  calc ofDigits (cs.filterMap Text.digitValue?)
      < 10 ^ (cs.filterMap Text.digitValue?).length := ofDigits_lt hdigits
    _ ≤ 10 ^ cs.length := Nat.pow_le_pow_right (by omega) (List.length_filterMap_le _ _)

theorem digitsFrom_eq {a : Alphabet} (h : a.grouped = false) (after : Bool) (cs : List Char) :
    digitsFrom a after cs =
      ((cs.takeWhile fun c => (a.digit? c).isSome).filterMap a.digit?,
        cs.dropWhile fun c => (a.digit? c).isSome) := by
  induction cs generalizing after with
  | nil => rfl
  | cons c rest ih =>
    unfold digitsFrom
    cases hc : a.digit? c with
    | none => simp [h, hc]
    | some d => simp [ih, hc]

end Numeral

end QueryGate
