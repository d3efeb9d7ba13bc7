import Mathlib.Data.List.Basic
import QueryGate.Json.Reader

/-!
# Numbers do not depend on what follows them

A reader that succeeds has taken a part off the front. Had less stood behind that part, the reader
would have taken the same part and given the same result. For a number that is so part by part: the
sign, the whole part, the fraction and the exponent.
-/

set_option autoImplicit false

namespace QueryGate.Json

variable {α β : Type}

/-- Where the reader succeeds it takes a part off the front, and it takes the same part with the
same result when something is cut off at the end of the rest. -/
def Steady (read : List Char → Reading α) : Prop :=
  ∀ cs v rest, read cs = .ok (v, rest) →
    ∃ part, part ≠ [] ∧ cs = part ++ rest ∧
      ∀ kept, kept <+: rest → read (part ++ kept) = .ok (v, kept)

/-- The same of what always succeeds and may take nothing: this part is taken off this text. -/
def TakesFrom (take : List Char → α × List Char) (cs part : List Char) : Prop :=
  cs = part ++ (take cs).2 ∧
    ∀ kept, kept <+: (take cs).2 → take (part ++ kept) = ((take cs).1, kept)

theorem takesFrom_nil {take : List Char → α × List Char} {cs : List Char} (a : α)
    (h : ∀ kept, kept <+: cs → take kept = (a, kept)) : TakesFrom take cs [] := by
  have hcs : take cs = (a, cs) := h cs List.prefix_rfl
  rw [TakesFrom, hcs]
  exact ⟨rfl, h⟩

theorem eq_of_takesFrom_nil {take : List Char → α × List Char} {cs : List Char}
    (h : TakesFrom take cs []) : (take cs).2 = cs := h.1.symm

theorem ne_cons_of_cut {c : Char} {cs kept : List Char} (h : ∀ rest, cs ≠ c :: rest)
    (hkept : kept <+: cs) : ∀ rest, kept ≠ c :: rest := by
  rintro rest rfl
  obtain ⟨more, rfl⟩ := hkept
  exact h (rest ++ more) rfl

theorem map_eq_ok {x : Except Fault α} {f : α → β} {b : β} :
    x.map f = .ok b ↔ ∃ a, x = .ok a ∧ f a = b := by
  cases x with
  | error e => simp [Except.map]
  | ok a => simp [Except.map]

theorem map_reading_eq_ok {x : Reading α} {f : α → β} {b : β} {rest : List Char} :
    (x.map fun (a, rest) => (f a, rest)) = .ok (b, rest) ↔ ∃ a, x = .ok (a, rest) ∧ f a = b := by
  rw [map_eq_ok]
  constructor
  · rintro ⟨⟨a, rest'⟩, ha, hpair⟩
    obtain ⟨hb, rfl⟩ := Prod.mk.inj hpair
    exact ⟨a, ha, hb⟩
  · rintro ⟨a, ha, rfl⟩
    exact ⟨(a, rest), ha, rfl⟩

theorem digits_cons_of_some {c : Char} {d : Nat} (hc : Numeral.plain.digit? c = some d)
    (cs : List Char) : digits (c :: cs) = (d :: (digits cs).1, (digits cs).2) := by
  have hafter : ∀ after, Numeral.digitsFrom Numeral.plain after cs =
      Numeral.digitsFrom Numeral.plain false cs := by
    intro after
    cases cs with
    | nil => rfl
    | cons c' rest => simp [Numeral.digitsFrom, Numeral.plain]
  simp [digits, Numeral.digits, Numeral.digitsFrom, hc, hafter true]

theorem digits_cons_of_none {c : Char} (hc : Numeral.plain.digit? c = none)
    (cs : List Char) : digits (c :: cs) = ([], c :: cs) := by
  have hgrouped : Numeral.plain.grouped = false := rfl
  simp [digits, Numeral.digits, Numeral.digitsFrom, hc, hgrouped]

theorem exists_digits (cs : List Char) :
    ∃ part, TakesFrom digits cs part ∧ part.length = (digits cs).1.length := by
  induction cs with
  | nil =>
    refine ⟨[], takesFrom_nil [] ?_, rfl⟩
    intro kept hkept
    rw [List.prefix_nil.mp hkept]
    rfl
  | cons c cs ih =>
    cases hc : Numeral.plain.digit? c with
    | some d =>
      obtain ⟨part, ⟨hcs, hpart⟩, hlen⟩ := ih
      unfold TakesFrom
      rw [digits_cons_of_some hc]
      refine ⟨c :: part, ⟨by rw [List.cons_append, ← hcs], ?_⟩, by simp [hlen]⟩
      intro kept hkept
      rw [List.cons_append, digits_cons_of_some hc, hpart kept hkept]
    | none =>
      refine ⟨[], takesFrom_nil [] ?_, by rw [digits_cons_of_none hc]; rfl⟩
      intro kept hkept
      cases kept with
      | nil => rfl
      | cons c' kept =>
        obtain ⟨rfl, -⟩ := List.cons_prefix_cons.mp hkept
        exact digits_cons_of_none hc kept

theorem digits_eq_nil_of_cut {cs kept : List Char} (h : (digits cs).1 = [])
    (hkept : kept <+: cs) : digits kept = ([], kept) := by
  obtain ⟨part, htake, hlen⟩ := exists_digits cs
  rw [h] at hlen
  obtain rfl : part = [] := List.length_eq_zero_iff.mp hlen
  have hcut := htake.2 kept (by rw [eq_of_takesFrom_nil htake]; exact hkept)
  rw [h] at hcut
  exact hcut

theorem fraction_point (rest : List Char) : fraction ('.' :: rest) =
    if (digits rest).1 = [] then ([], '.' :: rest) else digits rest := by
  simp only [fraction]
  split
  · rename_i hnone
    rw [hnone, if_pos rfl]
  · rename_i hsome
    rw [if_neg]
    intro hnone
    exact hsome (digits rest).2 (Prod.ext hnone rfl)

theorem fraction_of_ne {cs : List Char} (h : ∀ rest, cs ≠ '.' :: rest) :
    fraction cs = ([], cs) := by
  unfold fraction
  split
  · exact absurd rfl (h _)
  · rfl

theorem exists_fraction (cs : List Char) :
    ∃ part, TakesFrom fraction cs part ∧ ((fraction cs).1 = [] → part = []) := by
  by_cases hpoint : ∃ rest, cs = '.' :: rest
  · obtain ⟨rest, rfl⟩ := hpoint
    by_cases hnone : (digits rest).1 = []
    · refine ⟨[], takesFrom_nil [] ?_, fun _ => rfl⟩
      intro kept hkept
      cases kept with
      | nil => rfl
      | cons c kept =>
        obtain ⟨rfl, hbehind⟩ := List.cons_prefix_cons.mp hkept
        have hcut : digits kept = ([], kept) := digits_eq_nil_of_cut hnone hbehind
        rw [fraction_point, hcut, if_pos rfl]
    · obtain ⟨part, ⟨hcs, hpart⟩, -⟩ := exists_digits rest
      unfold TakesFrom
      rw [fraction_point, if_neg hnone]
      refine ⟨'.' :: part, ⟨by rw [List.cons_append, ← hcs], ?_⟩, fun h => absurd h hnone⟩
      intro kept hkept
      rw [List.cons_append, fraction_point, hpart kept hkept, if_neg hnone]
  · refine ⟨[], takesFrom_nil [] ?_, fun _ => rfl⟩
    intro kept hkept
    exact fraction_of_ne (ne_cons_of_cut (fun rest h => hpoint ⟨rest, h⟩) hkept)

theorem sign_cons {c : Char} (hminus : c ≠ '-') (hplus : c ≠ '+') (rest : List Char) :
    Numeral.sign (c :: rest) = (false, c :: rest) := by
  unfold Numeral.sign
  split <;> simp_all

/-- A cut may take the sign itself, but what stands behind the sign stays a part of the rest. -/
theorem sign_cut {cs kept : List Char} (hkept : kept <+: cs) :
    (Numeral.sign kept).2 <+: (Numeral.sign cs).2 := by
  obtain ⟨more, rfl⟩ := hkept
  cases kept with
  | nil => exact List.nil_prefix
  | cons c kept =>
    rw [List.cons_append]
    unfold Numeral.sign
    split <;> simp_all

theorem exists_sign (cs : List Char) : ∃ part, TakesFrom Numeral.sign cs part := by
  cases cs with
  | nil =>
    refine ⟨[], takesFrom_nil false ?_⟩
    intro kept hkept
    obtain rfl : kept = [] := List.prefix_nil.mp hkept
    rfl
  | cons c cs =>
    by_cases hminus : c = '-'
    · subst hminus
      exact ⟨['-'], rfl, fun kept _ => rfl⟩
    · by_cases hplus : c = '+'
      · subst hplus
        exact ⟨['+'], rfl, fun kept _ => rfl⟩
      · refine ⟨[], takesFrom_nil false ?_⟩
        intro kept hkept
        cases kept with
        | nil => rfl
        | cons c' kept =>
          obtain ⟨rfl, -⟩ := List.cons_prefix_cons.mp hkept
          exact sign_cons hminus hplus kept

theorem exponent_of_not {e : Char} (he : ¬(e = 'e' ∨ e = 'E')) (rest : List Char) :
    exponent (e :: rest) = (none, e :: rest) := by
  simp only [exponent, if_neg he]

theorem exponent_letter {e : Char} (he : e = 'e' ∨ e = 'E') (rest : List Char) :
    exponent (e :: rest) =
      if (digits (Numeral.sign rest).2).1 = [] then (none, e :: rest)
      else
        (some (if (Numeral.sign rest).1 then
            -(Numeral.ofDigits (digits (Numeral.sign rest).2).1 : Int)
          else Numeral.ofDigits (digits (Numeral.sign rest).2).1),
          (digits (Numeral.sign rest).2).2) := by
  simp only [exponent, if_pos he]
  rcases hdigits : digits (Numeral.sign rest).2 with ⟨ds, tail⟩
  cases ds with
  | nil => rfl
  | cons d ds => rfl

theorem exists_exponent (cs : List Char) :
    ∃ part, TakesFrom exponent cs part ∧ ((exponent cs).1 = none → part = []) := by
  cases cs with
  | nil =>
    refine ⟨[], takesFrom_nil none ?_, fun _ => rfl⟩
    intro kept hkept
    obtain rfl : kept = [] := List.prefix_nil.mp hkept
    rfl
  | cons e rest =>
    by_cases he : e = 'e' ∨ e = 'E'
    · by_cases hnone : (digits (Numeral.sign rest).2).1 = []
      · -- A letter without digits is left in place, and cutting the text adds none.
        refine ⟨[], takesFrom_nil none ?_, fun _ => rfl⟩
        intro kept hkept
        cases kept with
        | nil => rfl
        | cons c kept =>
          obtain ⟨rfl, hbehind⟩ := List.cons_prefix_cons.mp hkept
          have hcut := digits_eq_nil_of_cut hnone (sign_cut hbehind)
          rw [exponent_letter he, hcut, if_pos rfl]
      · obtain ⟨signPart, hrest, hsign⟩ := exists_sign rest
        obtain ⟨digitPart, ⟨htail, hdigits⟩, -⟩ := exists_digits (Numeral.sign rest).2
        unfold TakesFrom
        rw [exponent_letter he, if_neg hnone]
        refine ⟨e :: (signPart ++ digitPart), ⟨?_, ?_⟩, fun h => by simp at h⟩
        · rw [List.cons_append, List.append_assoc, ← htail, ← hrest]
        · intro kept hkept
          have hbehind : digitPart ++ kept <+: (Numeral.sign rest).2 := by
            rw [htail]
            exact (List.prefix_append_right_inj digitPart).mpr hkept
          rw [List.cons_append, List.append_assoc, exponent_letter he, hsign _ hbehind,
            hdigits kept hkept, if_neg hnone]
    · refine ⟨[], takesFrom_nil none ?_, fun _ => rfl⟩
      intro kept hkept
      cases kept with
      | nil => rfl
      | cons c kept =>
        obtain ⟨rfl, -⟩ := List.cons_prefix_cons.mp hkept
        exact exponent_of_not he kept

theorem exists_wholePart (cs : List Char) (h : (wholePart cs).1 ≠ []) :
    ∃ part, part ≠ [] ∧ TakesFrom wholePart cs part := by
  unfold TakesFrom
  unfold wholePart at h ⊢
  split at h
  · exact ⟨['0'], by simp, rfl, fun kept _ => rfl⟩
  · rename_i hzero
    obtain ⟨part, ⟨hcs, hpart⟩, hlen⟩ := exists_digits cs
    cases part with
    | nil => exact absurd (List.length_eq_zero_iff.mp hlen.symm) h
    | cons c part =>
      have hc : c ≠ '0' := by
        rintro rfl
        exact hzero _ hcs
      refine ⟨c :: part, by simp, hcs, ?_⟩
      intro kept hkept
      rw [← hpart kept hkept, List.cons_append]
      split
      · rename_i heq
        exact absurd (List.cons.inj heq).1 hc
      · rfl

def minus : List Char → Bool × List Char
  | '-' :: rest => (true, rest)
  | cs => (false, cs)

theorem minus_of_ne {cs : List Char} (h : ∀ rest, cs ≠ '-' :: rest) : minus cs = (false, cs) := by
  unfold minus
  split
  · exact absurd rfl (h _)
  · rfl

theorem exists_minus (cs : List Char) : ∃ part, TakesFrom minus cs part := by
  by_cases h : ∃ rest, cs = '-' :: rest
  · obtain ⟨rest, rfl⟩ := h
    exact ⟨['-'], rfl, fun kept _ => rfl⟩
  · refine ⟨[], takesFrom_nil false ?_⟩
    intro kept hkept
    exact minus_of_ne (ne_cons_of_cut (fun rest hcs => h ⟨rest, hcs⟩) hkept)

/-- The value of a number from its parts, if the number may have so many digits. -/
def numberOf (start : List Char) (negative : Bool) (whole part : List Nat) (power : Option Int) :
    Except Fault Value :=
  if part.isEmpty && power.isNone then
    if maxWholeDigits < whole.length then .error ⟨.tooManyDigits, start⟩
    else
      let n : Int := Numeral.ofDigits whole
      .ok (.int (if negative then -n else n))
  else .ok (.float (Binary64.ofNumeral
    ⟨negative, Numeral.ofDigits (whole ++ part), power.getD 0 - part.length⟩))

theorem numberOf_start {start : List Char} {negative : Bool} {whole part : List Nat}
    {power : Option Int} {v : Value} (h : numberOf start negative whole part power = .ok v)
    (start' : List Char) : numberOf start' negative whole part power = .ok v := by
  unfold numberOf at h ⊢
  split at h
  · split at h
    · cases h
    · rename_i hpart hlen
      rw [if_pos hpart, if_neg hlen]
      exact h
  · rename_i hpart
    rw [if_neg hpart]
    exact h

/-- A number is its sign and three parts, each behind the one before; a missing part takes
nothing. -/
theorem readNumber_eq (cs : List Char) :
    readNumber cs =
      let whole := wholePart (minus cs).2
      let part := fraction whole.2
      let power := exponent part.2
      if whole.1 = [] then .error ⟨.expectedValue, cs⟩
      else (numberOf cs (minus cs).1 whole.1 part.1 power.1).map fun v => (v, power.2) := by
  unfold readNumber
  split
  rename_i negative unsigned hsign
  have hminus : minus cs = (negative, unsigned) := by
    split at hsign
    · exact hsign
    · rename_i hne
      rw [minus_of_ne hne]
      exact hsign
  simp only [hminus]
  rcases hwhole : wholePart unsigned with ⟨whole, afterWhole⟩
  cases whole with
  | nil => rfl
  | cons d ds =>
    rw [if_neg (List.cons_ne_nil d ds)]
    by_cases hint : ((fraction afterWhole).1.isEmpty &&
        (exponent (fraction afterWhole).2).1.isNone) = true
    · have hparts := hint
      rw [Bool.and_eq_true, List.isEmpty_iff, Option.isNone_iff_eq_none] at hparts
      obtain ⟨fractionPart, hfraction, hnoFraction⟩ := exists_fraction afterWhole
      obtain ⟨exponentPart, hexponent, hnoExponent⟩ := exists_exponent (fraction afterWhole).2
      have hrest : (exponent (fraction afterWhole).2).2 = afterWhole := by
        rw [hnoFraction hparts.1] at hfraction
        rw [hnoExponent hparts.2] at hexponent
        rw [eq_of_takesFrom_nil hexponent, eq_of_takesFrom_nil hfraction]
      simp only [numberOf, if_pos hint, hrest]
      split <;> rfl
    · simp only [numberOf, if_neg hint]
      rfl

theorem steady_readNumber : Steady readNumber := by
  intro cs v rest h
  rw [readNumber_eq] at h
  dsimp only at h
  split at h
  · cases h
  · rename_i hwhole
    obtain ⟨signChars, hcs, hsign⟩ := exists_minus cs
    obtain ⟨wholeChars, hne, hunsigned, htakeWhole⟩ := exists_wholePart _ hwhole
    obtain ⟨fractionChars, ⟨hafterWhole, htakeFraction⟩, -⟩ :=
      exists_fraction (wholePart (minus cs).2).2
    obtain ⟨exponentChars, ⟨hafterFraction, htakeExponent⟩, -⟩ :=
      exists_exponent (fraction (wholePart (minus cs).2).2).2
    obtain ⟨n, hn, hpair⟩ := map_eq_ok.mp h
    obtain ⟨rfl, rfl⟩ := Prod.mk.inj hpair
    refine ⟨signChars ++ (wholeChars ++ (fractionChars ++ exponentChars)), by simp [hne], ?_, ?_⟩
    · simp only [List.append_assoc, ← hafterFraction, ← hafterWhole, ← hunsigned, ← hcs]
    · intro kept hkept
      -- each part is read off a cut of what it was read off before
      have hfraction : exponentChars ++ kept <+: (fraction (wholePart (minus cs).2).2).2 := by
        rw [hafterFraction]
        exact (List.prefix_append_right_inj _).mpr hkept
      have hwholePart :
          fractionChars ++ (exponentChars ++ kept) <+: (wholePart (minus cs).2).2 := by
        rw [hafterWhole]
        exact (List.prefix_append_right_inj _).mpr hfraction
      have hminus : wholeChars ++ (fractionChars ++ (exponentChars ++ kept)) <+: (minus cs).2 := by
        rw [hunsigned]
        exact (List.prefix_append_right_inj _).mpr hwholePart
      rw [readNumber_eq]
      simp only [List.append_assoc, hsign _ hminus, htakeWhole _ hwholePart,
        htakeFraction _ hfraction, htakeExponent _ hkept, if_neg hwhole]
      rw [numberOf_start hn]
      rfl

end QueryGate.Json
