import Mathlib.Data.Nat.Digits.Defs
import QueryGate.Json.Printer
import QueryGate.Proofs.Json.Token

/-!
# Literals and whole numbers read as they were written

The readers take exactly what the printer wrote, whatever stands behind it; only behind a number no
character may stand that would continue it. Main statements: `readString_literal` and
`readNumber_toString`.
-/

set_option autoImplicit false

namespace QueryGate.Json

theorem hexNumber?_hexDigits {n : Nat} (h : n < 0x20) :
    Text.hexNumber? (Text.hexDigits 4 n) = some n := by
  have all : ∀ m ∈ List.range 0x20, Text.hexNumber? (Text.hexDigits 4 m) = some m := by decide
  exact all n (List.mem_range.mpr h)

theorem unitChar_toNat {c : Char} (h : c.toNat < 0x20) : unitChar c.toNat = c := by
  have hhigh : isHighSurrogate c.toNat = false := by
    simp only [isHighSurrogate, Bool.and_eq_false_iff, decide_eq_false_iff_not]
    omega
  have hlow : isLowSurrogate c.toNat = false := by
    simp only [isLowSurrogate, Bool.and_eq_false_iff, decide_eq_false_iff_not]
    omega
  simp [unitChar, hhigh, hlow]

theorem unicodeEscape_hexDigits {c : Char} (h : c.toNat < 0x20) {tail : List Char}
    (htail : tail ≠ []) :
    unicodeEscape ('u' :: (Text.hexDigits 4 c.toNat ++ tail)) = .ok (c, tail) := by
  obtain ⟨w, x, y, z, hdigits⟩ : ∃ w x y z, Text.hexDigits 4 c.toNat = [w, x, y, z] :=
    ⟨_, _, _, _, rfl⟩
  have hnumber := hexNumber?_hexDigits h
  have hhigh : isHighSurrogate c.toNat = false := by
    simp only [isHighSurrogate, Bool.and_eq_false_iff, decide_eq_false_iff_not]
    omega
  rw [hdigits] at hnumber ⊢
  simp [unicodeEscape, htail, hnumber, hhigh, unitChar_toNat h]

theorem readChar_escapeChar (start : List Char) (c : Char) {tail : List Char} (h : tail ≠ []) :
    readChar start (escapeChar c ++ tail) = .ok (c, tail) := by
  -- seven characters have an escape of their own, the other controls share the numeric one
  unfold escapeChar
  split
  · subst_vars; rfl
  split
  · subst_vars; rfl
  split
  · subst_vars; rfl
  split
  · subst_vars; rfl
  split
  · subst_vars; rfl
  split
  · subst_vars; rfl
  split
  · subst_vars; rfl
  split
  · rename_i hcontrol
    have hescape := unicodeEscape_hexDigits hcontrol h
    simpa [readChar] using hescape
  · rename_i hquote hslash _ _ _ _ _ hcontrol
    simp [readChar, hslash, hcontrol]

theorem exists_escapeChar (c : Char) :
    ∃ first more, escapeChar c = first :: more ∧ first ≠ '"' := by
  unfold escapeChar
  repeat' split
  all_goals exact ⟨_, _, rfl, by simp_all⟩

theorem length_le_flatMap_escapeChar (cs : List Char) :
    cs.length ≤ (cs.flatMap escapeChar).length := by
  induction cs with
  | nil => exact Nat.le_refl _
  | cons c cs ih =>
    obtain ⟨first, more, hc, -⟩ := exists_escapeChar c
    rw [List.flatMap_cons, hc, List.length_append, List.length_cons, List.length_cons]
    omega

theorem readChars_flatMap_escapeChar (start cs rest : List Char) {fuel : Nat}
    (hfuel : cs.length < fuel) :
    readChars start fuel (cs.flatMap escapeChar ++ '"' :: rest) = .ok (cs, rest) := by
  induction cs generalizing fuel with
  | nil =>
    obtain ⟨fuel, rfl⟩ : ∃ n, fuel = n + 1 := ⟨fuel - 1, by omega⟩
    simp [readChars]
  | cons c cs ih =>
    obtain ⟨fuel, rfl⟩ : ∃ n, fuel = n + 1 := ⟨fuel - 1, by omega⟩
    have hshorter : cs.length < fuel := by simpa using hfuel
    have hrest := ih hshorter
    have hbehind : cs.flatMap escapeChar ++ '"' :: rest ≠ [] := by simp
    have hread := readChar_escapeChar start c hbehind
    obtain ⟨first, more, hc, hquote⟩ := exists_escapeChar c
    rw [List.flatMap_cons, List.append_assoc]
    rw [hc, List.cons_append] at hread ⊢
    rw [readChars_succ hquote, hread]
    simp only [hrest]
    rfl

theorem readString_literal (s : String) (rest : List Char) :
    readString (s.toList.flatMap escapeChar ++ '"' :: rest) = .ok (s, rest) := by
  have hfuel : s.toList.length < (s.toList.flatMap escapeChar ++ '"' :: rest).length + 1 := by
    have hlength := length_le_flatMap_escapeChar s.toList
    rw [List.length_append]
    omega
  rw [readString, readChars_flatMap_escapeChar _ _ _ hfuel]
  simp [Except.map]

theorem toList_literal (s : String) :
    (literal s).toList = '"' :: (s.toList.flatMap escapeChar ++ ['"']) := by
  rw [literal, String.toList_ofList, literalChars]

def EndsNumber (rest : List Char) : Prop :=
  ∀ c tail, rest = c :: tail → Numeral.asciiDigit? c = none ∧ c ≠ '.' ∧ c ≠ 'e' ∧ c ≠ 'E'

theorem endsNumber_nil : EndsNumber [] := by
  intro c tail h
  nomatch h

theorem endsNumber_cons {c : Char} (hdigit : Numeral.asciiDigit? c = none)
    (h : c ≠ '.' ∧ c ≠ 'e' ∧ c ≠ 'E') (rest : List Char) : EndsNumber (c :: rest) := by
  intro c' tail hcons
  obtain ⟨rfl, -⟩ := List.cons.inj hcons
  exact ⟨hdigit, h⟩

theorem EndsNumber.digits_eq {rest : List Char} (h : EndsNumber rest) :
    digits rest = ([], rest) := by
  cases rest with
  | nil => rfl
  | cons c rest => exact digits_cons_of_none (h c rest rfl).1 rest

theorem EndsNumber.fraction_eq {rest : List Char} (h : EndsNumber rest) :
    fraction rest = ([], rest) := by
  refine fraction_of_ne ?_
  rintro tail rfl
  exact (h '.' tail rfl).2.1 rfl

theorem EndsNumber.exponent_eq {rest : List Char} (h : EndsNumber rest) :
    exponent rest = (none, rest) := by
  cases rest with
  | nil => rfl
  | cons c rest =>
    have hletter := (h c rest rfl).2.2
    exact exponent_of_not (by simp [hletter]) rest

theorem asciiDigit?_of_isDigit {c : Char} (h : c.isDigit) :
    Numeral.asciiDigit? c = some (c.toNat - '0'.toNat) := by
  rw [Char.isDigit, Bool.and_eq_true, decide_eq_true_iff, decide_eq_true_iff] at h
  exact if_pos h

def digitValue (c : Char) : Nat := c.toNat - '0'.toNat

theorem digits_append {cs rest : List Char} (hcs : ∀ c ∈ cs, c.isDigit) (hrest : EndsNumber rest) :
    digits (cs ++ rest) = (cs.map digitValue, rest) := by
  induction cs with
  | nil => exact hrest.digits_eq
  | cons c cs ih =>
    obtain ⟨hc, hcs⟩ := List.forall_mem_cons.mp hcs
    rw [List.cons_append, digits_cons_of_some (asciiDigit?_of_isDigit hc), ih hcs]
    rfl

theorem exists_toDigits {n : Nat} (h : n ≠ 0) :
    ∃ c cs, Nat.toDigits 10 n = c :: cs ∧ c ≠ '0' := by
  induction n using Nat.strongRecOn with
  | ind n ih =>
    by_cases hsmall : n < 10
    · refine ⟨_, _, Nat.toDigits_of_lt_base hsmall, ?_⟩
      intro hzero
      have hvalue := congrArg Char.toNat hzero
      rw [Nat.toNat_digitChar_of_lt_ten hsmall] at hvalue
      exact h (by simpa using hvalue)
    · obtain ⟨c, cs, hdigits, hc⟩ := ih (n / 10) (by omega) (by omega)
      refine ⟨c, cs ++ [Nat.digitChar (n % 10)], ?_, hc⟩
      rw [Nat.toDigits_of_base_le (by omega) (by omega), hdigits, List.cons_append]

theorem wholePart_toDigits (n : Nat) {rest : List Char} (hrest : EndsNumber rest) :
    wholePart (Nat.toDigits 10 n ++ rest) = ((Nat.toDigits 10 n).map digitValue, rest) := by
  -- a zero in front is a whole part of its own, and only the number zero has one
  by_cases hzero : n = 0
  · subst hzero
    rfl
  · obtain ⟨c, cs, hdigits, hc⟩ := exists_toDigits hzero
    have hall : ∀ c ∈ Nat.toDigits 10 n, c.isDigit :=
      fun c hc => Nat.isDigit_of_mem_toDigits (by omega) (by omega) hc
    rw [← digits_append hall hrest, hdigits, List.cons_append]
    unfold wholePart
    split
    · rename_i heq
      exact absurd (List.cons.inj heq).1 hc
    · rfl

theorem ofDigits_toDigits (n : Nat) :
    Numeral.ofDigits ((Nat.toDigits 10 n).map digitValue) = n := by
  have hvalue := Nat.ofDigitChars_ten_toDigits (n := n)
  rw [Numeral.ofDigits, List.foldl_map]
  exact hvalue

def decimals (n : Int) : List Char := Nat.toDigits 10 n.natAbs

theorem exists_decimals (n : Int) : ∃ c cs, decimals n = c :: cs ∧ c.isDigit := by
  obtain ⟨c, cs, hdigits⟩ := List.exists_cons_of_ne_nil (Nat.toDigits_ne_nil (n := n.natAbs))
  have hc : c ∈ Nat.toDigits 10 n.natAbs := by
    rw [hdigits]
    exact List.mem_cons_self
  exact ⟨c, cs, hdigits, Nat.isDigit_of_mem_toDigits (by omega) (by omega) hc⟩

theorem toList_toString (n : Int) :
    (toString n).toList = if n < 0 then '-' :: decimals n else decimals n := by
  cases n with
  | ofNat m =>
    have hpos : ¬(Int.ofNat m : Int) < 0 := by simp
    rw [if_neg hpos]
    exact Nat.toList_repr
  | negSucc m =>
    have hneg : Int.negSucc m < 0 := Int.negSucc_lt_zero m
    have hshape : toString (Int.negSucc m) = "-" ++ (m + 1).repr := rfl
    rw [if_pos hneg, hshape, String.toList_append, Nat.toList_repr]
    rfl

theorem minus_toString (n : Int) (rest : List Char) :
    minus ((toString n).toList ++ rest) = (decide (n < 0), decimals n ++ rest) := by
  rw [toList_toString]
  by_cases hneg : n < 0
  · simp [hneg, minus]
  · have hne : ∀ tail, decimals n ++ rest ≠ '-' :: tail := by
      intro tail heq
      obtain ⟨c, cs, hdigits, hc⟩ := exists_decimals n
      rw [hdigits, List.cons_append] at heq
      rw [(List.cons.inj heq).1] at hc
      nomatch hc
    rw [if_neg hneg, minus_of_ne hne]
    simp [hneg]

theorem readNumber_toString {n : Int} (hlength : (decimals n).length ≤ maxWholeDigits)
    {rest : List Char} (hrest : EndsNumber rest) :
    readNumber ((toString n).toList ++ rest) = .ok (.int n, rest) := by
  have hwhole : (decimals n).map digitValue ≠ [] := by simp [decimals, Nat.toDigits_ne_nil]
  have hlimit : ¬maxWholeDigits < ((decimals n).map digitValue).length := by simpa using hlength
  have hvalue : Numeral.ofDigits ((decimals n).map digitValue) = n.natAbs :=
    ofDigits_toDigits n.natAbs
  rw [readNumber_eq, minus_toString, decimals, wholePart_toDigits _ hrest, ← decimals]
  dsimp only
  rw [hrest.fraction_eq, if_neg hwhole]
  dsimp only
  rw [hrest.exponent_eq]
  have hnumber : numberOf ((toString n).toList ++ rest) (decide (n < 0))
      ((decimals n).map digitValue) [] none = .ok (.int n) := by
    have hempty : (List.isEmpty ([] : List Nat) && Option.isNone (none : Option Int)) = true := rfl
    rw [numberOf, if_pos hempty, if_neg hlimit, hvalue]
    by_cases hneg : n < 0
    · have habs : -(n.natAbs : Int) = n := by omega
      simp only [hneg, decide_true, if_true, habs]
    · have habs : (n.natAbs : Int) = n := by omega
      simp only [hneg, decide_false, Bool.false_eq_true, if_false, habs]
  rw [hnumber]
  rfl

def startsNumber : List Char → Bool
  | '-' :: c :: _ => c.isDigit
  | c :: _ => c.isDigit
  | [] => false

theorem startsNumber_toString (n : Int) (rest : List Char) :
    startsNumber ((toString n).toList ++ rest) = true := by
  obtain ⟨c, cs, hdigits, hc⟩ := exists_decimals n
  rw [toList_toString, hdigits]
  by_cases hneg : n < 0
  · simp [hneg, startsNumber, hc]
  · rw [if_neg hneg, List.cons_append]
    unfold startsNumber
    split
    · rename_i heq
      rw [(List.cons.inj heq).1] at hc
      nomatch hc
    · rename_i heq
      exact (List.cons.inj heq).1 ▸ hc
    · rename_i heq
      nomatch heq

theorem ne_of_startsNumber {cs : List Char} (h : startsNumber cs = true) {c : Char}
    (hc : ∀ rest, startsNumber (c :: rest) = false) (rest : List Char) : cs ≠ c :: rest := by
  rintro rfl
  rw [hc] at h
  nomatch h

theorem readAtom_of_startsNumber {cs : List Char} (h : startsNumber cs = true) :
    readAtom cs = readNumber cs := by
  have hnone : words.findSome? (afterWord cs) = none := by
    rw [List.findSome?_eq_none_iff]
    intro word hword
    by_contra hsome
    obtain ⟨⟨v, rest⟩, hfound⟩ := Option.ne_none_iff_exists'.mp hsome
    obtain ⟨-, rfl⟩ := afterWord_eq_some.mp hfound
    simp only [words, List.mem_cons, List.not_mem_nil, or_false] at hword
    rcases hword with rfl | rfl | rfl | rfl | rfl | rfl <;> nomatch h
  rw [readAtom_eq, hnone]

end QueryGate.Json
