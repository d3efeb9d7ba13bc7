import Mathlib.Data.List.TakeWhile
import QueryGate.Proofs.Number.Digits
import QueryGate.Proofs.Number.Range
import QueryGate.Provider.RetryDelay

/-!
# The first numeral of a text

A delay is read from the first run of digits in a text, with the run behind the point where one
follows. Main statements: `RetryDelay.exists_firstNumeral`, that what is found is such a numeral,
and `RetryDelay.numeral?_of_firstNumeral`, that such a numeral is found. A numeral of few digits is
within the range of numbers.
-/

set_option autoImplicit false

namespace QueryGate.RetryDelay

structure IsRun (run rest : List Char) : Prop where
  nonempty : run ≠ []
  digits : ∀ c ∈ run, Text.isDigit c
  maximal : ∀ c ∈ rest.head?, ¬Text.isDigit c

/-- The first run of digits in the text, and the run behind the point that follows it, if any. -/
inductive FirstNumeral (text whole : List Char) : List Char → Prop where
  | whole {before after : List Char} (htext : text = before ++ (whole ++ after))
      (hbefore : ∀ c ∈ before, ¬Text.isDigit c) (hrun : IsRun whole after)
      (hend : ∀ fraction rest, after = '.' :: (fraction ++ rest) → ¬IsRun fraction rest) :
      FirstNumeral text whole []
  | decimal {before fraction after : List Char}
      (htext : text = before ++ (whole ++ '.' :: (fraction ++ after)))
      (hbefore : ∀ c ∈ before, ¬Text.isDigit c) (hrun : IsRun whole ('.' :: (fraction ++ after)))
      (hfraction : IsRun fraction after) : FirstNumeral text whole fraction

def written (whole fraction : List Char) : Numeral :=
  ⟨false, Numeral.ofDigits ((whole ++ fraction).filterMap Text.digitValue?), -fraction.length⟩

theorem FirstNumeral.cons {text whole fraction : List Char} (h : FirstNumeral text whole fraction)
    {c : Char} (hc : ¬Text.isDigit c) : FirstNumeral (c :: text) whole fraction := by
  cases h with
  | @whole before after htext hbefore hrun hend =>
    have hcons : c :: text = (c :: before) ++ (whole ++ after) := congrArg (List.cons c) htext
    exact .whole hcons (List.forall_mem_cons.mpr ⟨hc, hbefore⟩) hrun hend
  | @decimal before fraction after htext hbefore hrun hfraction =>
    have hcons : c :: text = (c :: before) ++ (whole ++ '.' :: (fraction ++ after)) :=
      congrArg (List.cons c) htext
    exact .decimal hcons (List.forall_mem_cons.mpr ⟨hc, hbefore⟩) hrun hfraction

theorem FirstNumeral.exists_digit {text whole fraction : List Char}
    (h : FirstNumeral text whole fraction) : ∃ c ∈ text, Text.isDigit c := by
  have hrun {before rest : List Char} (htext : text = before ++ (whole ++ rest))
      (hrun : IsRun whole rest) : ∃ c ∈ text, Text.isDigit c := by
    obtain ⟨c, hc⟩ := List.exists_mem_of_ne_nil _ hrun.nonempty
    refine ⟨c, ?_, hrun.digits c hc⟩
    rw [htext]
    exact List.mem_append_right _ (List.mem_append_left _ hc)
  cases h with
  | whole htext _ hwhole _ => exact hrun htext hwhole
  | decimal htext _ hwhole _ => exact hrun htext hwhole

theorem FirstNumeral.length_le {text whole fraction : List Char}
    (h : FirstNumeral text whole fraction) : whole.length + fraction.length ≤ text.length := by
  cases h with
  | whole htext =>
    rw [htext, List.length_append, List.length_append, List.length_nil]
    omega
  | decimal htext =>
    rw [htext, List.length_append, List.length_append, List.length_cons, List.length_append]
    omega

theorem isRun_takeWhile {cs : List Char} (h : cs.takeWhile Text.isDigit ≠ []) :
    IsRun (cs.takeWhile Text.isDigit) (cs.dropWhile Text.isDigit) where
  nonempty := h
  digits := fun _ hc => List.mem_takeWhile_imp hc
  maximal := by
    intro c hc
    have hhead := List.head?_dropWhile_not Text.isDigit cs
    rw [Option.mem_def.mp hc] at hhead
    simpa using hhead

/-- The run of digits behind the point with which a text begins, if it does. -/
def behindPoint : List Char → List Char
  | '.' :: tail => tail.takeWhile Text.isDigit
  | _ => []

/-- Digits at the front are the first numeral, with those behind the point that follows them. -/
theorem firstNumeral_takeWhile {cs : List Char} (h : cs.takeWhile Text.isDigit ≠ []) :
    FirstNumeral cs (cs.takeWhile Text.isDigit) (behindPoint (cs.dropWhile Text.isDigit)) := by
  have hrun := isRun_takeWhile h
  have htext : cs = [] ++ (cs.takeWhile Text.isDigit ++ cs.dropWhile Text.isDigit) :=
    List.takeWhile_append_dropWhile.symm
  generalize cs.takeWhile Text.isDigit = whole at hrun htext ⊢
  generalize cs.dropWhile Text.isDigit = after at hrun htext ⊢
  unfold behindPoint
  split
  · rename_i tail
    by_cases hfraction : tail.takeWhile Text.isDigit = []
    · rw [hfraction]
      refine .whole htext (by simp) hrun ?_
      intro fraction rest htail hsecond
      rw [(List.cons.inj htail).2] at hfraction
      cases fraction with
      | nil => exact hsecond.nonempty rfl
      | cons c fraction =>
        rw [List.cons_append, List.takeWhile_cons_of_pos (hsecond.digits c (by simp))] at hfraction
        cases hfraction
    · have htail : tail = tail.takeWhile Text.isDigit ++ tail.dropWhile Text.isDigit :=
        List.takeWhile_append_dropWhile.symm
      exact .decimal (htail ▸ htext) (by simp) (htail ▸ hrun) (isRun_takeWhile hfraction)
  · rename_i hpoint
    refine .whole htext (by simp) hrun ?_
    intro fraction rest hafter
    exact absurd hafter (hpoint _)

theorem digits_everyScript (cs : List Char) :
    Numeral.digits everyScript cs =
      ((cs.takeWhile Text.isDigit).filterMap Text.digitValue?, cs.dropWhile Text.isDigit) :=
  Numeral.digitsFrom_eq rfl false cs

theorem length_digits_takeWhile (cs : List Char) :
    ((cs.takeWhile Text.isDigit).filterMap Text.digitValue?).length =
      (cs.takeWhile Text.isDigit).length :=
  List.filterMap_length_eq_length.mpr fun _ hc => List.mem_takeWhile_imp (p := Text.isDigit) hc

theorem numeralHere?_eq (cs : List Char) :
    numeralHere? cs =
      if cs.takeWhile Text.isDigit = [] then none
      else some (written (cs.takeWhile Text.isDigit)
        (behindPoint (cs.dropWhile Text.isDigit))) := by
  have hnone : (cs.takeWhile Text.isDigit).filterMap Text.digitValue? = [] ↔
      cs.takeWhile Text.isDigit = [] := by
    rw [← List.length_eq_zero_iff, length_digits_takeWhile, List.length_eq_zero_iff]
  unfold numeralHere?
  rw [digits_everyScript]
  split
  · rename_i hdigits
    rw [if_pos (hnone.mp (congrArg Prod.fst hdigits))]
  · rename_i whole rest hne hdigits
    cases hdigits
    rw [if_neg (fun hempty => hne (hnone.mpr hempty))]
    generalize cs.dropWhile Text.isDigit = rest
    unfold written behindPoint
    split
    · simp [digits_everyScript, length_digits_takeWhile]
    · simp

theorem exists_firstNumeral {cs : List Char} {n : Numeral} (h : numeral? cs = some n) :
    ∃ whole fraction, FirstNumeral cs whole fraction ∧ n = written whole fraction := by
  induction cs with
  | nil => cases h
  | cons c rest ih =>
    rw [numeral?, numeralHere?_eq] at h
    by_cases hrun : (c :: rest).takeWhile Text.isDigit = []
    · rw [if_pos hrun] at h
      obtain ⟨whole, fraction, hfirst, hn⟩ := ih h
      have hc : ¬Text.isDigit c := by
        intro hc
        rw [List.takeWhile_cons_of_pos hc] at hrun
        cases hrun
      exact ⟨whole, fraction, hfirst.cons hc, hn⟩
    · rw [if_neg hrun] at h
      exact ⟨_, _, firstNumeral_takeWhile hrun, (Option.some.inj h).symm⟩

theorem IsRun.takeWhile_eq {run rest : List Char} (h : IsRun run rest) :
    (run ++ rest).takeWhile Text.isDigit = run := by
  rw [List.takeWhile_append_of_pos h.digits]
  cases rest with
  | nil => rw [List.takeWhile_nil, List.append_nil]
  | cons c rest => rw [List.takeWhile_cons_of_neg (h.maximal c rfl), List.append_nil]

theorem IsRun.dropWhile_eq {run rest : List Char} (h : IsRun run rest) :
    (run ++ rest).dropWhile Text.isDigit = rest := by
  rw [List.dropWhile_append_of_pos h.digits]
  cases rest with
  | nil => rfl
  | cons c rest => rw [List.dropWhile_cons_of_neg (h.maximal c rfl)]

theorem behindPoint_eq_nil {after : List Char}
    (h : ∀ fraction rest, after = '.' :: (fraction ++ rest) → ¬IsRun fraction rest) :
    behindPoint after = [] := by
  unfold behindPoint
  split
  · rename_i tail
    by_contra hrun
    refine h _ (tail.dropWhile Text.isDigit) ?_ (isRun_takeWhile hrun)
    rw [List.takeWhile_append_dropWhile]
  · rfl

theorem numeral?_append {before : List Char} (h : ∀ c ∈ before, ¬Text.isDigit c)
    (cs : List Char) : numeral? (before ++ cs) = numeral? cs := by
  induction before with
  | nil => rfl
  | cons c before ih =>
    obtain ⟨hc, hbefore⟩ := List.forall_mem_cons.mp h
    rw [List.cons_append, numeral?, numeralHere?_eq, List.takeWhile_cons_of_neg hc, if_pos rfl]
    exact ih hbefore

theorem numeral?_of_isRun {whole after : List Char} (h : IsRun whole after) :
    numeral? (whole ++ after) = some (written whole (behindPoint after)) := by
  have hhere : numeralHere? (whole ++ after) = some (written whole (behindPoint after)) := by
    rw [numeralHere?_eq, h.takeWhile_eq, h.dropWhile_eq, if_neg h.nonempty]
  cases hcs : whole ++ after with
  | nil => exact absurd (List.append_eq_nil_iff.mp hcs).1 h.nonempty
  | cons c rest => rw [numeral?, ← hcs, hhere]

theorem numeral?_of_firstNumeral {cs whole fraction : List Char}
    (h : FirstNumeral cs whole fraction) : numeral? cs = some (written whole fraction) := by
  cases h with
  | whole htext hbefore hrun hend =>
    rw [htext, numeral?_append hbefore, numeral?_of_isRun hrun, behindPoint_eq_nil hend]
  | decimal htext hbefore hrun hfraction =>
    rw [htext, numeral?_append hbefore, numeral?_of_isRun hrun, behindPoint,
      hfraction.takeWhile_eq]

theorem magnitude_written_le (whole fraction : List Char) :
    (written whole fraction).magnitude ≤ (written whole fraction).coefficient := by
  have hscale : (10 : ℚ) ^ (-(fraction.length : Int)) ≤ 1 :=
    zpow_le_one_of_nonpos₀ (by norm_num) (by omega)
  exact mul_le_of_le_one_right (Nat.cast_nonneg _) hscale

theorem magnitude_written_lt (whole fraction : List Char) :
    (written whole fraction).magnitude < 10 ^ (whole.length + fraction.length) := by
  have hdigits := Numeral.ofDigits_filterMap_lt (whole ++ fraction)
  rw [List.length_append] at hdigits
  exact (magnitude_written_le whole fraction).trans_lt (by exact_mod_cast hdigits)

end QueryGate.RetryDelay
