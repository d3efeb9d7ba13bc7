import Mathlib.Data.List.TakeWhile
import QueryGate.Number.Binary64

/-!
# Texts that are read as numbers

A text that is read as a number holds no blank between its ends, so that it does not matter which
blanks are taken away around it. Main statement: `Binary64.read?_trimBy`.
-/

set_option autoImplicit false

namespace QueryGate

namespace Text

theorem exists_trimBy (p : Char → Bool) (cs : List Char) : ∃ before after,
    cs = before ++ (trimBy p cs ++ after) ∧ (∀ c ∈ before, p c) ∧ ∀ c ∈ after, p c := by
  refine ⟨cs.takeWhile p, ((cs.dropWhile p).reverse.takeWhile p).reverse, ?_, ?_, ?_⟩
  · rw [trimBy, ← List.reverse_append, List.takeWhile_append_dropWhile, List.reverse_reverse,
      List.takeWhile_append_dropWhile]
  · exact fun c hc => List.mem_takeWhile_imp hc
  · exact fun c hc => List.mem_takeWhile_imp (List.mem_reverse.mp hc)

theorem trimBy_around {p : Char → Bool} {before cs after : List Char}
    (hbefore : ∀ c ∈ before, p c) (hafter : ∀ c ∈ after, p c) (hcs : ∀ c ∈ cs, ¬p c) :
    trimBy p (before ++ (cs ++ after)) = cs := by
  have hdrop : ∀ xs : List Char, (∀ c ∈ xs, ¬p c) → xs.dropWhile p = xs := by
    intro xs hxs
    cases xs with
    | nil => rfl
    | cons c xs => exact List.dropWhile_cons_of_neg (hxs c List.mem_cons_self)
  cases cs with
  | nil =>
    have hall : (before ++ after).dropWhile p = [] :=
      List.dropWhile_eq_nil_iff.mpr (List.forall_mem_append.mpr ⟨hbefore, hafter⟩)
    rw [trimBy, List.nil_append, hall]
    rfl
  | cons c cs =>
    have hfront : (before ++ (c :: cs ++ after)).dropWhile p = c :: cs ++ after := by
      rw [List.dropWhile_append_of_pos hbefore]
      exact List.dropWhile_cons_of_neg (hcs c List.mem_cons_self)
    rw [trimBy, hfront, List.reverse_append, List.dropWhile_append_of_pos, hdrop,
      List.reverse_reverse]
    · exact fun d hd => hcs d (List.mem_reverse.mp hd)
    · exact fun d hd => hafter d (List.mem_reverse.mp hd)

theorem not_isBlank_of_digitValue? {c : Char} {d : Nat} (h : digitValue? c = some d) :
    ¬isBlank c := by
  have hscripts : ∀ z ∈ zeroDigits, ∀ i < 10, inRuns blankRuns (z + i) = false := by
    decide +kernel
  obtain ⟨z, hz, -⟩ := Option.map_eq_some_iff.mp h
  have hrange := List.find?_some hz
  rw [Bool.and_eq_true, decide_eq_true_iff, decide_eq_true_iff] at hrange
  have hblank := hscripts z (List.mem_of_find?_eq_some hz) (c.toNat - z) (by omega)
  rw [Nat.add_sub_cancel' hrange.1] at hblank
  rw [isBlank, hblank]
  exact Bool.false_ne_true

end Text

namespace Numeral

variable {a : Alphabet}

theorem mem_of_digitsFrom {cs : List Char} {c : Char} (after : Bool) (h : c ∈ cs) :
    (a.digit? c).isSome ∨ c = '_' ∨ c ∈ (digitsFrom a after cs).2 := by
  induction cs generalizing after with
  | nil => nomatch h
  | cons d rest ih =>
    unfold digitsFrom
    cases hd : a.digit? d with
    | some value =>
      rcases List.mem_cons.mp h with rfl | hrest
      · exact .inl (Option.isSome_iff_exists.mpr ⟨value, hd⟩)
      · exact ih _ hrest
    | none =>
      dsimp only
      split
      · rename_i hseparator
        simp only [Bool.and_eq_true, beq_iff_eq] at hseparator
        rcases List.mem_cons.mp h with rfl | hrest
        · exact .inr (.inl hseparator.1.2)
        · exact ih _ hrest
      · exact .inr (.inr h)

def marks : List Char := ['-', '+', '.', '_', 'e', 'E']

theorem mem_of_sign {cs : List Char} {c : Char} (h : c ∈ cs) : c ∈ marks ∨ c ∈ (sign cs).2 := by
  unfold sign
  split
  · exact (List.mem_cons.mp h).imp (by rintro rfl; decide) id
  · exact (List.mem_cons.mp h).imp (by rintro rfl; decide) id
  · exact .inr h

theorem mem_of_digits {cs rest : List Char} {ds : List Nat} (hdigits : digits a cs = (ds, rest))
    {c : Char} (h : c ∈ cs) : (a.digit? c).isSome ∨ c ∈ marks ∨ c ∈ rest := by
  have hmem := mem_of_digitsFrom (a := a) false h
  rw [← digits, hdigits] at hmem
  exact hmem.imp_right (Or.imp_left (by rintro rfl; decide))

theorem mem_of_exponentPart? {cs : List Char} {e : Int} (he : exponentPart? a cs = some e)
    {c : Char} (h : c ∈ cs) : (a.digit? c).isSome ∨ c ∈ marks := by
  unfold exponentPart? at he
  split at he
  · nomatch h
  · rename_i d rest
    split at he
    · rename_i hletter
      rcases List.mem_cons.mp h with rfl | hrest
      · right
        rcases hletter with rfl | rfl <;> decide
      · split at he
        rename_i negative tail hsign
        split at he
        · rename_i ds hdigits
          have htail := mem_of_sign hrest
          rw [hsign] at htail
          rcases htail with hmark | htail
          · exact .inr hmark
          · rcases mem_of_digits hdigits htail with hdigit | hmark | hnone
            · exact .inl hdigit
            · exact .inr hmark
            · nomatch hnone
        · nomatch he
    · nomatch he

theorem mem_of_readWith? {cs : List Char} {x : Numeral} (hx : readWith? a cs = some x) {c : Char}
    (h : c ∈ cs) : (a.digit? c).isSome ∨ c ∈ marks := by
  unfold readWith? at hx
  split at hx
  rename_i negative unsigned hsign
  split at hx
  rename_i whole behind hwhole
  split at hx
  rename_i fraction rest hfraction
  have hexponent : ∃ e, exponentPart? a rest = some e := by
    split at hx
    · nomatch hx
    · obtain ⟨e, he, -⟩ := Option.map_eq_some_iff.mp hx
      exact ⟨e, he⟩
  obtain ⟨e, he⟩ := hexponent
  have hbehind : ∀ d ∈ behind, (a.digit? d).isSome ∨ d ∈ marks := by
    intro d hd
    split at hfraction
    · rcases List.mem_cons.mp hd with rfl | hd
      · exact .inr (by decide)
      · rcases mem_of_digits hfraction hd with hdigit | hmark | hrest
        · exact .inl hdigit
        · exact .inr hmark
        · exact mem_of_exponentPart? he hrest
    · cases hfraction
      exact mem_of_exponentPart? he hd
  have hunsigned := mem_of_sign h
  rw [hsign] at hunsigned
  rcases hunsigned with hmark | hunsigned
  · exact .inr hmark
  · rcases mem_of_digits hwhole hunsigned with hdigit | hmark | hrest
    · exact .inl hdigit
    · exact .inr hmark
    · exact hbehind c hrest

end Numeral

namespace Binary64

def letters : List Char := "infinitynan".toList

theorem not_isBlank_of_mem_letters {c : Char} (h : c ∈ letters) : ¬Text.isBlank c := by
  have hall : letters.all fun c => !Text.isBlank c := by decide
  simpa using List.all_eq_true.mp hall c h

theorem not_isBlank_of_mem_marks {c : Char} (h : c ∈ Numeral.marks) : ¬Text.isBlank c := by
  have hall : Numeral.marks.all fun c => !Text.isBlank c := by decide
  simpa using List.all_eq_true.mp hall c h

theorem not_isBlank_of_asciiLowerLetter {c : Char}
    (h : readSpecial?.asciiLowerLetter c ∈ letters) : ¬Text.isBlank c := by
  have hcapitals : ∀ n < 26, Text.inRuns Text.blankRuns ('A'.toNat + n) = false := by decide
  unfold readSpecial?.asciiLowerLetter at h
  split at h
  · rename_i hcapital
    have hlow : 'A'.toNat ≤ c.toNat := hcapital.1
    have hhigh : c.toNat ≤ 'A'.toNat + 25 := hcapital.2
    have hblank := hcapitals (c.toNat - 'A'.toNat) (by omega)
    rw [Nat.add_sub_cancel' hlow] at hblank
    rw [Text.isBlank, hblank]
    exact Bool.false_ne_true
  · exact not_isBlank_of_mem_letters h

theorem not_isBlank_of_readSpecial? {cs : List Char} {x : Binary64}
    (hx : readSpecial? cs = some x) {c : Char} (h : c ∈ cs) : ¬Text.isBlank c := by
  unfold readSpecial? at hx
  split at hx
  rename_i negative rest hsign
  have hword : ∀ word ∈ ["inf", "infinity", "nan"],
      String.ofList (rest.map readSpecial?.asciiLowerLetter) = word →
        ∀ d ∈ rest, ¬Text.isBlank d := by
    intro word hword hrest d hd
    have hletters : ∀ word ∈ ["inf", "infinity", "nan"], word.toList ⊆ letters := by
      decide
    refine not_isBlank_of_asciiLowerLetter (hletters word hword ?_)
    rw [← hrest, String.toList_ofList]
    exact List.mem_map_of_mem hd
  have hrest : ∀ d ∈ rest, ¬Text.isBlank d := by
    dsimp only at hx
    split at hx
    · rename_i hinfinite
      rcases hinfinite with hinf | hinfinity
      · exact hword "inf" (by simp) hinf
      · exact hword "infinity" (by simp) hinfinity
    · split at hx
      · exact hword "nan" (by simp) ‹_›
      · nomatch hx
  have hmem := Numeral.mem_of_sign h
  rw [hsign] at hmem
  exact hmem.elim not_isBlank_of_mem_marks (hrest c)

theorem not_isBlank_of_read? {cs : List Char} {x : Binary64} (hx : read? cs = some x) :
    ∀ c ∈ Text.trimBy Text.isNumeralBlank cs, ¬Text.isBlank c := by
  intro c hc
  unfold read? at hx
  split at hx
  · rename_i y hspecial
    exact not_isBlank_of_readSpecial? hspecial hc
  · obtain ⟨n, hn, -⟩ := Option.map_eq_some_iff.mp hx
    rcases Numeral.mem_of_readWith? hn hc with hdigit | hmark
    · obtain ⟨d, hd⟩ := Option.isSome_iff_exists.mp hdigit
      exact Text.not_isBlank_of_digitValue? hd
    · exact not_isBlank_of_mem_marks hmark

/-- A text that is read as a number is read as the same one without the blanks around it. -/
theorem read?_trimBy {cs : List Char} {x : Binary64} (hx : read? cs = some x) :
    read? (Text.trimBy Text.isBlank cs) = some x := by
  have hcore := not_isBlank_of_read? hx
  obtain ⟨before, after, hcs, hbefore, hafter⟩ := Text.exists_trimBy Text.isNumeralBlank cs
  have hblank : ∀ c, Text.isNumeralBlank c → Text.isBlank c := by
    intro c hc
    exact (Bool.and_eq_true_iff.mp hc).1
  have hwide : Text.trimBy Text.isBlank cs = Text.trimBy Text.isNumeralBlank cs := by
    exact (congrArg _ hcs).trans (Text.trimBy_around (fun c hc => hblank c (hbefore c hc))
      (fun c hc => hblank c (hafter c hc)) hcore)
  have htwice : Text.trimBy Text.isNumeralBlank (Text.trimBy Text.isBlank cs) =
      Text.trimBy Text.isNumeralBlank cs := by
    rw [hwide]
    refine (congrArg (Text.trimBy Text.isNumeralBlank) ?_).trans (Text.trimBy_around
      (List.forall_mem_nil _) (List.forall_mem_nil _) fun c hc => mt (hblank c) (hcore c hc))
    simp
  rw [read?, Numeral.read?, htwice, ← Numeral.read?, ← read?]
  exact hx

end Binary64

end QueryGate
