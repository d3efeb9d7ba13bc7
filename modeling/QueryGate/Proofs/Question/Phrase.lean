import Mathlib.Data.List.TakeWhile
import QueryGate.Question.Phrase
import QueryGate.Text.Case

/-!
# How a phrase for an author is read

A name that begins and ends with characters of its own is cut out of its phrase whole, however many
keywords, digits and quotation marks stand within it: behind no shorter piece does the question
close. Main statement: `AuthorPhrase.authorHere?_chars`.
-/

set_option autoImplicit false

namespace QueryGate

def Text.Spells (word text : String) : Prop := text.toList.map asciiLower = word.toList

namespace Phrase

structure IsWord (word : String) : Prop where
  ne_nil : word.toList ≠ []
  all_small : word.toList.all fun c => 97 ≤ c.toNat ∧ c.toNat ≤ 122

theorem IsWord.small {word : String} (h : IsWord word) {c : Char} (hc : c ∈ word.toList) :
    97 ≤ c.toNat ∧ c.toNat ≤ 122 := of_decide_eq_true (List.all_eq_true.mp h.all_small c hc)

/-- A character that stands for a small letter counts as that letter, and it is no blank. -/
theorem fold_of_asciiLower {c a : Char} (h : Text.asciiLower c = a)
    (ha : 97 ≤ a.toNat ∧ a.toNat ≤ 122) : fold c = a ∧ ¬Text.isBlank c := by
  have hletter : ∀ n, n < 128 → 65 ≤ n → ¬Text.inRuns Text.blankRuns n := by decide +kernel
  unfold Text.asciiLower at h
  split at h
  · rename_i hcapital
    have hrange : 65 ≤ c.toNat ∧ c.toNat ≤ 90 := hcapital
    exact ⟨by rw [fold, if_pos hcapital, h], hletter _ (by omega) (by omega)⟩
  · rename_i hcapital
    subst h
    refine ⟨?_, hletter _ (by omega) (by omega)⟩
    have hother : ∀ d : Char, 122 < d.toNat → c ≠ d := by
      rintro d hd rfl
      omega
    rw [fold, if_neg hcapital, if_neg (hother _ (by decide)),
      if_neg (not_or.mpr ⟨hother _ (by decide), hother _ (by decide)⟩),
      if_neg (hother _ (by decide))]

section Spelled

variable {word text : String} (hword : IsWord word) (h : Text.Spells word text)
include hword h

theorem map_fold_of_spells : text.toList.map fold = word.toList := by
  rw [← h]
  refine List.map_congr_left fun c hc => ?_
  exact (fold_of_asciiLower rfl (hword.small (h ▸ List.mem_map_of_mem hc))).1

theorem not_isBlank_of_spells : ∀ c ∈ text.toList, ¬Text.isBlank c := fun _ hc =>
  (fold_of_asciiLower rfl (hword.small (h ▸ List.mem_map_of_mem hc))).2

theorem exists_cons_of_spells : ∃ c rest, text.toList = c :: rest := by
  refine List.exists_cons_of_ne_nil ?_
  intro hnil
  rw [Text.Spells, hnil] at h
  exact hword.ne_nil h.symm

end Spelled

theorem word?_append {word front : List Char} (h : front.map fold = word) (rest : List Char) :
    word? word (front ++ rest) = some rest := by
  subst h
  induction front with
  | nil => rfl
  | cons c front ih =>
    rw [List.map_cons, List.cons_append, word?, if_pos rfl]
    exact ih

theorem word?_eq_none {v word text : String} (hv : IsWord v) (hword : IsWord word)
    (h : Text.Spells word text) (hne : v.toList.head? ≠ word.toList.head?) (rest : List Char) :
    word? v.toList (text.toList ++ rest) = none := by
  obtain ⟨a, as, ha⟩ := List.exists_cons_of_ne_nil hv.ne_nil
  obtain ⟨c, cs, hc⟩ := exists_cons_of_spells hword h
  rw [← map_fold_of_spells hword h, ha, hc, List.map_cons, List.head?_cons, List.head?_cons] at hne
  rw [ha, hc, List.cons_append, word?, if_neg]
  rintro rfl
  exact hne rfl

/-- The words are of small letters, and no two of them begin with the same one. -/
structure Distinct (words : List String) : Prop where
  isWord : ∀ w ∈ words, IsWord w
  heads : words.Pairwise fun v w => v.toList.head? ≠ w.toList.head?

theorem anyWord?_append {words : List String} (hwords : Distinct words) {text : String}
    (h : ∃ word ∈ words, Text.Spells word text) (rest : List Char) :
    anyWord? words (text.toList ++ rest) = some rest := by
  obtain ⟨word, hmem, h⟩ := h
  have hword := hwords.isWord word hmem
  obtain ⟨hwords, hheads⟩ := hwords
  unfold anyWord?
  induction words with
  | nil => nomatch hmem
  | cons v words ih =>
    obtain ⟨hv, hwords⟩ := List.forall_mem_cons.mp hwords
    obtain ⟨hother, hheads⟩ := List.pairwise_cons.mp hheads
    rw [List.findSome?_cons]
    rcases List.mem_cons.mp hmem with rfl | hmem
    · rw [word?_append (map_fold_of_spells hword h)]
    · rw [word?_eq_none hv hword h (hother word hmem)]
      exact ih hmem hwords hheads

theorem blanks?_append {word text : String} (hword : IsWord word) (h : Text.Spells word text)
    (rest : List Char) : blanks? (' ' :: (text.toList ++ rest)) = some (text.toList ++ rest) := by
  obtain ⟨c, cs, hc⟩ := exists_cons_of_spells hword h
  have hblank : ¬Text.isBlank c := not_isBlank_of_spells hword h c (by rw [hc]; exact .head _)
  rw [hc, List.cons_append, blanks?, if_pos (by decide), List.dropWhile_cons_of_neg hblank]

theorem not_isBlank_of_isQuote {c : Char} (h : isQuote c) : ¬Text.isBlank c := by
  simp only [isQuote, Bool.or_eq_true, beq_iff_eq] at h
  rcases h with rfl | rfl <;> decide

theorem not_isQuote_of_isStop {c : Char} (h : isStop c) : ¬isQuote c := by
  simp only [isStop, Bool.or_eq_true, beq_iff_eq] at h
  rcases h with (rfl | rfl) | rfl <;> decide

theorem not_isBlank_of_isStop {c : Char} (h : isStop c) : ¬Text.isBlank c := by
  simp only [isStop, Bool.or_eq_true, beq_iff_eq] at h
  rcases h with (rfl | rfl) | rfl <;> decide

def Trails (c : Char) : Prop := Text.isBlank c ∨ isQuote c ∨ isStop c

theorem mem_skip (drop : Char → Bool) {c : Char} {cs : List Char} (hc : c ∈ cs) :
    drop c ∨ c ∈ skip drop cs := by
  cases cs with
  | nil => nomatch hc
  | cons d rest =>
    rw [skip]
    split
    · rename_i hd
      rcases List.mem_cons.mp hc with rfl | hrest
      · exact .inl hd
      · exact .inr hrest
    · exact .inr hc

theorem mem_dropWhile {p : Char → Bool} {c : Char} {cs : List Char} (hc : c ∈ cs) :
    p c ∨ c ∈ cs.dropWhile p := by
  rw [← List.takeWhile_append_dropWhile (p := p) (l := cs), List.mem_append] at hc
  exact hc.imp List.mem_takeWhile_imp id

theorem trails_of_closes {cs : List Char} (h : closes cs) {c : Char} (hc : c ∈ cs) : Trails c := by
  rw [closes, List.isEmpty_iff] at h
  rcases mem_skip isQuote hc with hquote | hc
  · exact .inr (.inl hquote)
  rcases mem_dropWhile (p := Text.isBlank) hc with hblank | hc
  · exact .inl hblank
  rcases mem_skip isStop hc with hstop | hc
  · exact .inr (.inr hstop)
  rcases mem_dropWhile (p := Text.isBlank) hc with hblank | hc
  · exact .inl hblank
  · rw [h] at hc
    nomatch hc

theorem piece?_append {allowed : Char → Bool} {piece tail : List Char} (hne : piece ≠ [])
    (hallowed : ∀ c ∈ piece, allowed c) (hends : ∀ c ∈ piece.getLast?, ¬Trails c)
    (htail : closes tail) : piece? allowed (piece ++ tail) = some piece := by
  induction piece with
  | nil => exact absurd rfl hne
  | cons c rest ih =>
    obtain ⟨hc, hrest⟩ := List.forall_mem_cons.mp hallowed
    rw [List.cons_append, piece?, if_pos hc]
    cases rest with
    | nil => rw [List.nil_append, if_pos htail]
    | cons d rest =>
      have hlast : (c :: d :: rest).getLast? =
          some ((d :: rest).getLast (List.cons_ne_nil _ _)) := by
        rw [List.getLast?_cons_cons, List.getLast?_eq_some_getLast]
      have hopen : ¬closes (d :: rest ++ tail) := fun h => hends _ hlast <|
        trails_of_closes h (List.mem_append_left _ (List.getLast_mem _))
      rw [if_neg hopen, ih (List.cons_ne_nil _ _) hrest fun x hx => hends x (by simpa using hx)]
      rfl

end Phrase

/-- A name that a phrase can ask for: one line, with characters of its own at both ends. -/
structure Phrase.IsName (name : List Char) : Prop where
  ne_nil : name ≠ []
  line : '\n' ∉ name
  begins : ∀ c ∈ name.head?, ¬Text.isBlank c ∧ ¬isQuote c
  ends : ∀ c ∈ name.getLast?, ¬Trails c

/-- A phrase that asks for an author by name, as in "by the user ada": words in any letter case,
the name perhaps within quotation marks, and perhaps a stop. -/
structure AuthorPhrase where
  introducer : String
  article : Option String
  role : String
  opening : Option Char
  name : String
  closing : Option Char
  stop : Option Char
  spells_introducer : ∃ word ∈ ["by", "from", "of"], Text.Spells word introducer
  spells_article : ∀ text ∈ article, Text.Spells "the" text
  spells_role : ∃ word ∈ ["author", "user", "writer"], Text.Spells word role
  isQuote_opening : ∀ c ∈ opening, Phrase.isQuote c
  isName : Phrase.IsName name.toList
  isQuote_closing : ∀ c ∈ closing, Phrase.isQuote c
  isStop_stop : ∀ c ∈ stop, Phrase.isStop c

namespace AuthorPhrase

open Phrase

variable (p : AuthorPhrase)

def tail : List Char := p.closing.toList ++ p.stop.toList

def quoted : List Char := p.opening.toList ++ (p.name.toList ++ p.tail)

def fromRole : List Char := p.role.toList ++ ' ' :: p.quoted

def chars : List Char :=
  p.introducer.toList ++ ' ' ::
    ((p.article.elim [] fun text => text.toList ++ [' ']) ++ p.fromRole)

theorem closes_tail : closes p.tail := by
  unfold tail
  cases hc : p.closing with
  | none =>
    cases hs : p.stop with
    | none => rfl
    | some s =>
      have hstop := p.isStop_stop s hs
      simp [closes, skip, hstop, not_isQuote_of_isStop hstop, not_isBlank_of_isStop hstop]
  | some c =>
    have hquote := p.isQuote_closing c hc
    cases hs : p.stop with
    | none => simp [closes, skip, hquote]
    | some s =>
      have hstop := p.isStop_stop s hs
      simp [closes, skip, hquote, hstop, not_isBlank_of_isStop hstop]

theorem exists_name_cons : ∃ c rest, p.name.toList = c :: rest ∧ ¬Text.isBlank c ∧ ¬isQuote c := by
  obtain ⟨c, rest, h⟩ := List.exists_cons_of_ne_nil p.isName.ne_nil
  exact ⟨c, rest, h, p.isName.begins c (by rw [h]; rfl)⟩

theorem skip_quoted : skip isQuote p.quoted = p.name.toList ++ p.tail := by
  unfold quoted
  cases hopening : p.opening with
  | none =>
    obtain ⟨c, rest, hname, -, hc⟩ := p.exists_name_cons
    rw [hname]
    exact if_neg hc
  | some c => exact if_pos (p.isQuote_opening c hopening)

theorem exists_quoted_cons : ∃ c rest, p.quoted = c :: rest ∧ ¬Text.isBlank c := by
  unfold quoted
  cases hopening : p.opening with
  | none =>
    obtain ⟨c, rest, hname, hc, -⟩ := p.exists_name_cons
    exact ⟨c, rest ++ p.tail, by rw [hname]; rfl, hc⟩
  | some c =>
    exact ⟨c, p.name.toList ++ p.tail, rfl, not_isBlank_of_isQuote (p.isQuote_opening c hopening)⟩

theorem quotedPiece?_quoted : quotedPiece? (· != '\n') (' ' :: p.quoted) = some p.name.toList := by
  have hpiece : piece? (· != '\n') (p.name.toList ++ p.tail) = some p.name.toList := by
    refine piece?_append p.isName.ne_nil ?_ p.isName.ends p.closes_tail
    intro c hc
    exact bne_iff_ne.mpr (ne_of_mem_of_not_mem hc p.isName.line)
  have hcuts : blankCuts (' ' :: p.quoted) = [p.quoted] := by
    obtain ⟨c, rest, hquoted, hc⟩ := p.exists_quoted_cons
    rw [hquoted, blankCuts, if_pos (by decide), blankCuts, if_neg hc]
    rfl
  rw [quotedPiece?, hcuts, List.findSome?_cons, p.skip_quoted, hpiece]

theorem distinct_introducers : Distinct ["by", "from", "of"] where
  isWord := by
    simp only [List.forall_mem_cons]
    exact ⟨⟨by decide, by decide⟩, ⟨by decide, by decide⟩, ⟨by decide, by decide⟩, by simp⟩
  heads := by decide

theorem distinct_roles : Distinct ["author", "user", "writer"] where
  isWord := by
    simp only [List.forall_mem_cons]
    exact ⟨⟨by decide, by decide⟩, ⟨by decide, by decide⟩, ⟨by decide, by decide⟩, by simp⟩
  heads := by decide

theorem isWord_the : IsWord "the" := ⟨by decide, by decide⟩

theorem article_passed :
    ∃ cs, blanks? (' ' :: ((p.article.elim [] fun text => text.toList ++ [' ']) ++ p.fromRole)) =
        some cs ∧ ((word? "the".toList cs).bind blanks?).getD cs = p.fromRole := by
  obtain ⟨role, hmem, hrole⟩ := p.spells_role
  have hword := distinct_roles.isWord role hmem
  have hheads : ∀ w ∈ ["author", "user", "writer"], "the".toList.head? ≠ w.toList.head? := by
    decide
  have hbefore : blanks? (' ' :: p.fromRole) = some p.fromRole := blanks?_append hword hrole _
  cases harticle : p.article with
  | none =>
    refine ⟨p.fromRole, hbefore, ?_⟩
    have hno : word? "the".toList p.fromRole = none :=
      word?_eq_none isWord_the hword hrole (hheads role hmem) _
    rw [hno]
    rfl
  | some text =>
    have hthe := p.spells_article text harticle
    refine ⟨text.toList ++ ' ' :: p.fromRole, ?_, ?_⟩
    · rw [Option.elim_some, List.append_assoc]
      exact blanks?_append isWord_the hthe _
    · rw [word?_append (map_fold_of_spells isWord_the hthe), Option.bind_some, hbefore]
      rfl

theorem authorHere?_chars : authorHere? p.chars = some p.name.toList := by
  obtain ⟨cs, hblanks, harticle⟩ := p.article_passed
  have hroles : anyWord? ["author", "user", "writer"] p.fromRole = some (' ' :: p.quoted) :=
    anyWord?_append distinct_roles p.spells_role _
  unfold authorHere? chars
  simp only [anyWord?_append distinct_introducers p.spells_introducer, hblanks, harticle, hroles,
    Option.bind_eq_bind, Option.bind_some, p.quotedPiece?_quoted]

theorem exists_front : ∃ front, p.chars = front ++ (p.name.toList ++ p.tail) := by
  refine ⟨p.introducer.toList ++ ' ' :: ((p.article.elim [] fun text => text.toList ++ [' ']) ++
    (p.role.toList ++ ' ' :: p.opening.toList)), ?_⟩
  simp [chars, fromRole, quoted]

theorem not_isBlank_last (before : List Char) :
    ∀ c ∈ (before ++ p.chars).getLast?, ¬Text.isBlank c := by
  obtain ⟨front, hchars⟩ := p.exists_front
  intro c hc
  rw [hchars, ← List.append_assoc, tail] at hc
  cases hs : p.stop with
  | some s =>
    obtain rfl : s = c := by simpa [hs] using hc
    exact not_isBlank_of_isStop (p.isStop_stop s hs)
  | none =>
    cases hq : p.closing with
    | some d =>
      obtain rfl : d = c := by simpa [hs, hq] using hc
      exact not_isBlank_of_isQuote (p.isQuote_closing d hq)
    | none =>
      have hlast := List.getLast?_eq_some_getLast p.isName.ne_nil
      have hname : c ∈ p.name.toList.getLast? := by
        simpa [hs, hq, hlast, List.getLast?_append] using hc
      exact fun hblank => p.isName.ends c hname (.inl hblank)

end AuthorPhrase

end QueryGate
