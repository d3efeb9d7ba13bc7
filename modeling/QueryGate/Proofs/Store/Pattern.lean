import Mathlib.Data.List.TakeWhile
import QueryGate.Proofs.Store.Condition
import QueryGate.Store.Bounds

/-!
# Searching by pattern

`Text.IsLike` says what a search pattern means: a percent sign stands for any run of characters, an
underscore for any one of them, a character behind a backslash for itself, and the case of ASCII
letters does not count, nor does which of the three characters from U+FFFD on it is. The store's
matcher decides just that (`PatternPart.isLike_iff`). A needle that was escaped is found literally.
Main statement: `Clause.contains_holds_iff`.
-/

set_option autoImplicit false

namespace QueryGate

namespace Text

def SameLetter (c d : Char) : Prop := PatternPart.searched c = PatternPart.searched d

/-- The pattern, read from the left, stands for the text. -/
inductive IsLike : List Char → List Char → Prop
  | nil : IsLike [] []
  | anyRun {pattern text : List Char} (run : List Char) (h : IsLike pattern text) :
      IsLike ('%' :: pattern) (run ++ text)
  | anyOne {pattern text : List Char} (d : Char) (h : IsLike pattern text) :
      IsLike ('_' :: pattern) (d :: text)
  | escaped {pattern text : List Char} {c d : Char} (hc : SameLetter c d)
      (h : IsLike pattern text) : IsLike ('\\' :: c :: pattern) (d :: text)
  | itself {pattern text : List Char} {c d : Char} (hspecial : c ≠ '%' ∧ c ≠ '_' ∧ c ≠ '\\')
      (hc : SameLetter c d) (h : IsLike pattern text) : IsLike (c :: pattern) (d :: text)

/-- The characters as the search reads them. -/
def asSearched (cs : List Char) : List Char := cs.map PatternPart.searched

theorem anySuffix_iff {α : Type} {test : List α → Bool} {xs : List α} :
    anySuffix test xs ↔ ∃ front back, xs = front ++ back ∧ test back := by
  induction xs with
  | nil =>
    constructor
    · intro h
      exact ⟨[], [], rfl, h⟩
    · rintro ⟨front, back, hsplit, h⟩
      obtain ⟨-, rfl⟩ := List.append_eq_nil_iff.mp hsplit.symm
      exact h
  | cons x xs ih =>
    rw [anySuffix, Bool.or_eq_true, ih]
    constructor
    · rintro (h | ⟨front, back, rfl, h⟩)
      · exact ⟨[], x :: xs, rfl, h⟩
      · exact ⟨x :: front, back, rfl, h⟩
    · rintro ⟨front, back, hsplit, h⟩
      cases front with
      | nil =>
        left
        rwa [hsplit]
      | cons y front =>
        obtain ⟨rfl, rfl⟩ := List.cons.inj hsplit
        exact .inr ⟨front, back, rfl, h⟩

end Text

namespace PatternPart

open Text

theorem parse_plain {c : Char} (h : c ≠ '%' ∧ c ≠ '_' ∧ c ≠ '\\') (pattern : List Char) :
    parse (c :: pattern) = (parse pattern).map (.exactly c :: ·) := by
  obtain ⟨hrun, hone, hescape⟩ := h
  rw [parse.eq_def]
  split <;> simp_all

theorem matchesText_exactly {c : Char} {parts : List PatternPart} {text : List Char} :
    matchesText (.exactly c :: parts) text ↔
      ∃ d rest, text = d :: rest ∧ SameLetter c d ∧ matchesText parts rest := by
  cases text with
  | nil => simp [matchesText]
  | cons d rest => simp [matchesText, SameLetter]

theorem matchesText_anyOne {parts : List PatternPart} {text : List Char} :
    matchesText (.anyOne :: parts) text ↔ ∃ d rest, text = d :: rest ∧ matchesText parts rest := by
  cases text with
  | nil => simp [matchesText]
  | cons d rest => simp [matchesText]

theorem matchesText_anyRun {parts : List PatternPart} {text : List Char} :
    matchesText (.anyRun :: parts) text ↔
      ∃ run rest, text = run ++ rest ∧ matchesText parts rest := anySuffix_iff

/-- Does the text match the pattern? A pattern that ends within an escape matches nothing. -/
def matchesPattern (pattern text : List Char) : Bool :=
  (parse pattern).any fun parts => matchesText parts text

theorem matchesPattern_of_isLike {pattern text : List Char} (h : IsLike pattern text) :
    matchesPattern pattern text := by
  unfold matchesPattern
  induction h with
  | nil => rfl
  | anyRun run _ ih =>
    obtain ⟨parts, hparts, hrest⟩ := (Option.any_eq_true _ _).mp ih
    rw [parse, hparts, Option.map_some, Option.any_some, matchesText_anyRun]
    exact ⟨run, _, rfl, hrest⟩
  | anyOne d _ ih =>
    obtain ⟨parts, hparts, hrest⟩ := (Option.any_eq_true _ _).mp ih
    rw [parse, hparts, Option.map_some, Option.any_some, matchesText_anyOne]
    exact ⟨d, _, rfl, hrest⟩
  | escaped hc _ ih =>
    obtain ⟨parts, hparts, hrest⟩ := (Option.any_eq_true _ _).mp ih
    rw [parse, hparts, Option.map_some, Option.any_some, matchesText_exactly]
    exact ⟨_, _, rfl, hc, hrest⟩
  | itself hspecial hc _ ih =>
    obtain ⟨parts, hparts, hrest⟩ := (Option.any_eq_true _ _).mp ih
    rw [parse_plain hspecial, hparts, Option.map_some, Option.any_some, matchesText_exactly]
    exact ⟨_, _, rfl, hc, hrest⟩

theorem isLike_of_parse {pattern text : List Char} {parts : List PatternPart}
    (hparts : parse pattern = some parts) (h : matchesText parts text) : IsLike pattern text := by
  fun_induction parse pattern generalizing parts text with
  | case1 =>
    cases hparts
    rw [List.isEmpty_iff.mp h]
    exact .nil
  | case2 => nomatch hparts
  | case3 c rest ih =>
    obtain ⟨parts, hrest, rfl⟩ := Option.map_eq_some_iff.mp hparts
    obtain ⟨d, text, rfl, hc, h⟩ := matchesText_exactly.mp h
    exact .escaped hc (ih hrest h)
  | case4 rest ih =>
    obtain ⟨parts, hrest, rfl⟩ := Option.map_eq_some_iff.mp hparts
    obtain ⟨run, text, rfl, hback⟩ := matchesText_anyRun.mp h
    exact .anyRun run (ih hrest hback)
  | case5 rest ih =>
    obtain ⟨parts, hrest, rfl⟩ := Option.map_eq_some_iff.mp hparts
    obtain ⟨d, text, rfl, h⟩ := matchesText_anyOne.mp h
    exact .anyOne d (ih hrest h)
  | case6 c rest hend hescape hrun hone ih =>
    obtain ⟨parts, hrest, rfl⟩ := Option.map_eq_some_iff.mp hparts
    obtain ⟨d, text, rfl, hc, h⟩ := matchesText_exactly.mp h
    refine .itself ⟨hrun, hone, ?_⟩ hc (ih hrest h)
    rintro rfl
    cases rest with
    | nil => exact hend rfl rfl
    | cons c' rest => exact hescape c' rest rfl rfl

theorem isLike_iff {pattern text : List Char} :
    matchesPattern pattern text ↔ IsLike pattern text := by
  constructor
  · intro h
    obtain ⟨parts, hparts, hmatch⟩ := (Option.any_eq_true _ _).mp h
    exact isLike_of_parse hparts hmatch
  · exact matchesPattern_of_isLike

end PatternPart

namespace Clause

open PatternPart Text

def escapeChar (c : Char) : List Char :=
  if c = '\\' ∨ c = '%' ∨ c = '_' then ['\\', c] else [c]

/-- The three replacements escape every character by itself: the later ones leave the backslashes
alone that the first one doubled, and the first one sees none that they put in. -/
theorem escapeLike_eq (cs : List Char) : escapeLike cs = cs.flatMap escapeChar := by
  unfold escapeLike replaceChar
  rw [List.flatMap_assoc, List.flatMap_assoc]
  congr 1
  funext c
  unfold escapeChar
  by_cases hescape : c = '\\'
  · subst hescape
    rfl
  · by_cases hrun : c = '%'
    · subst hrun
      rfl
    · by_cases hone : c = '_'
      · subst hone
        rfl
      · simp [hescape, hrun, hone]

theorem parse_escapeChar (c : Char) (rest : List Char) :
    parse (escapeChar c ++ rest) = (parse rest).map (.exactly c :: ·) := by
  unfold escapeChar
  split
  · rfl
  · rename_i hspecial
    rw [not_or, not_or] at hspecial
    exact parse_plain ⟨hspecial.2.1, hspecial.2.2, hspecial.1⟩ rest

theorem parse_escapeLike (needle rest : List Char) :
    parse (escapeLike needle ++ rest) = (parse rest).map (needle.map .exactly ++ ·) := by
  rw [escapeLike_eq]
  induction needle with
  | nil => simp
  | cons c needle ih =>
    rw [List.flatMap_cons, List.append_assoc, parse_escapeChar, ih, Option.map_map]
    rfl

theorem matchesText_needle {needle : List Char} {parts : List PatternPart} {text : List Char} :
    matchesText (needle.map .exactly ++ parts) text ↔
      ∃ front back, text = front ++ back ∧ asSearched front = asSearched needle ∧
        matchesText parts back := by
  induction needle generalizing text with
  | nil =>
    constructor
    · intro h
      exact ⟨[], text, rfl, rfl, h⟩
    · rintro ⟨front, back, rfl, hfront, h⟩
      obtain rfl := List.map_eq_nil_iff.mp hfront
      exact h
  | cons c needle ih =>
    rw [List.map_cons, List.cons_append, matchesText_exactly]
    constructor
    · rintro ⟨d, rest, rfl, hc, h⟩
      obtain ⟨front, back, rfl, hfront, hback⟩ := ih.mp h
      refine ⟨d :: front, back, rfl, ?_, hback⟩
      exact congrArg₂ List.cons hc.symm hfront
    · rintro ⟨front, back, rfl, hfront, hback⟩
      obtain ⟨d, front, rfl, hd, hfront⟩ := List.map_eq_cons_iff.mp hfront
      exact ⟨d, front ++ back, rfl, hd.symm, ih.mpr ⟨front, back, rfl, hfront, hback⟩⟩

theorem toList_containsPattern (needle : String) :
    (containsPattern needle).toList = '%' :: (escapeLike needle.toList ++ ['%']) :=
  String.toList_ofList

/-- The pattern of a needle matches the texts that hold it, but for the case of ASCII letters. -/
theorem matchesPattern_containsPattern {needle : String} {text : List Char} :
    matchesPattern (containsPattern needle).toList text ↔
      asSearched needle.toList <:+: asSearched text := by
  have hend : parse ['%'] = some [.anyRun] := rfl
  have hparts : parse (containsPattern needle).toList =
      some (.anyRun :: (needle.toList.map .exactly ++ [.anyRun])) := by
    rw [toList_containsPattern, parse, parse_escapeLike, hend]
    rfl
  have hrest : ∀ back, matchesText [.anyRun] back := by
    intro back
    exact matchesText_anyRun.mpr ⟨back, [], (List.append_nil back).symm, rfl⟩
  rw [matchesPattern, hparts, Option.any_some, matchesText_anyRun]
  constructor
  · rintro ⟨run, rest, rfl, h⟩
    obtain ⟨front, back, rfl, hfront, -⟩ := matchesText_needle.mp h
    refine ⟨asSearched run, asSearched back, ?_⟩
    rw [← hfront, asSearched, asSearched, asSearched, asSearched, ← List.map_append,
      ← List.map_append, List.append_assoc]
  · rintro ⟨before, after, h⟩
    obtain ⟨front, back, rfl, hfront, -⟩ := List.map_eq_append_iff.mp h.symm
    obtain ⟨run, found, rfl, -, hfound⟩ := List.map_eq_append_iff.mp hfront
    refine ⟨run, found ++ back, List.append_assoc _ _ _, ?_⟩
    exact matchesText_needle.mpr ⟨found, back, rfl, hfound, hrest back⟩

theorem mem_escapeLike {c : Char} {cs : List Char} (h : c ∈ escapeLike cs) : c = '\\' ∨ c ∈ cs := by
  rw [escapeLike_eq] at h
  obtain ⟨d, hd, hc⟩ := List.mem_flatMap.mp h
  unfold escapeChar at hc
  split at hc
  · rcases List.mem_pair.mp hc with rfl | rfl
    · exact .inl rfl
    · exact .inr hd
  · rw [List.mem_singleton.mp hc]
    exact .inr hd

theorem beforeNul_eq {s : String} (h : '\x00' ∉ s.toList) : Scalar.beforeNul s = s.toList := by
  unfold Scalar.beforeNul
  rw [List.takeWhile_eq_self_iff]
  intro c hc
  refine decide_eq_true ?_
  rintro rfl
  exact h hc

theorem like_containsPattern {needle s : String} (hneedle : '\x00' ∉ needle.toList)
    (hs : '\x00' ∉ s.toList) : (Scalar.text s).like (containsPattern needle) =
      matchesPattern (containsPattern needle).toList s.toList := by
  have hpattern : '\x00' ∉ (containsPattern needle).toList := by
    rw [toList_containsPattern]
    intro h
    rcases List.mem_cons.mp h with h | h
    · nomatch h
    · rcases List.mem_append.mp h with h | h
      · rcases mem_escapeLike h with h | h
        · nomatch h
        · exact hneedle h
      · nomatch List.mem_singleton.mp h
  rw [Scalar.like, matchesPattern, beforeNul_eq hpattern, Scalar.searchText?]
  cases parse (containsPattern needle).toList with
  | none => rfl
  | some parts =>
    rw [Option.any_some, ← beforeNul_eq hs]

theorem holdsBounded_like {c : ColumnRef} {pattern : String} {m : Match}
    (h : pattern.utf8ByteSize ≤ 50000) : (BoundClause.like c pattern).holdsBounded m =
      .ok ((BoundClause.like c pattern).holds m) :=
  if_neg (by simpa [BoundClause.isTooLong] using h)

/-- A condition that asks for a needle can be built and bound, and it holds of a text cell exactly
when the cell holds the needle, as the search reads them: of the pattern that is searched for, every
percent sign, underscore and backslash of the needle stands for itself. The store tests it as long
as the pattern is not too long. -/
theorem contains_holds_iff {needle s : String} (hneedle : '\x00' ∉ needle.toList)
    (hs : '\x00' ∉ s.toList) {m : Match} {c : ColumnRef} (hcell : m.cell? c = some (.text s)) :
    ∃ clause bound, ofCondition ⟨"contains", .text needle⟩ c = .ok clause ∧ clause.Binds bound ∧
      ((containsPattern needle).utf8ByteSize ≤ 50000 →
        bound.holdsBounded m = .ok (bound.holds m)) ∧
      (bound.holds m ↔ asSearched needle.toList <:+: asSearched s.toList) ∧
      (IsLike ('%' :: (escapeLike needle.toList ++ ['%'])) s.toList ↔
        asSearched needle.toList <:+: asSearched s.toList) := by
  have hop : Operator.ofName? "contains" = some .contains := Operator.ofName?_name .contains
  have hclause : ofCondition ⟨"contains", .text needle⟩ c =
      .ok (.like c (containsPattern needle)) := by
    rw [ofCondition, hop]
    rfl
  have hholds : (BoundClause.like c (containsPattern needle)).holds m =
      matchesPattern (containsPattern needle).toList s.toList := by
    rw [BoundClause.holds, Match.scalar, hcell]
    exact like_containsPattern hneedle hs
  refine ⟨_, _, hclause, ⟨_, rfl, rfl⟩, holdsBounded_like, ?_, ?_⟩
  · rw [hholds, matchesPattern_containsPattern]
  · rw [← toList_containsPattern, ← isLike_iff, matchesPattern_containsPattern]

/-- A blog whose title has all three special characters in it, and a noncharacter. -/
def specialBlog : Blog :=
  ⟨1, "xA%_\\b\uFFFF", "", 1, 0, .ofDay ⟨2024, 1, 2⟩, .ofDay ⟨2024, 1, 2⟩⟩

theorem contains_holds_iff_specialBlog :
    '\x00' ∉ "a%_\\B".toList ∧ '\x00' ∉ "xA%_\\b\uFFFF".toList ∧
      (⟨specialBlog, none⟩ : Match).cell? ⟨"Blog", ⟨"title", .text⟩⟩ =
        some (.text "xA%_\\b\uFFFF") ∧
      ∃ clause bound,
        ofCondition ⟨"contains", .text "a%_\\B"⟩ ⟨"Blog", ⟨"title", .text⟩⟩ = .ok clause ∧
        clause.Binds bound ∧
        ((containsPattern "a%_\\B").utf8ByteSize ≤ 50000 →
          bound.holdsBounded ⟨specialBlog, none⟩ = .ok (bound.holds ⟨specialBlog, none⟩)) ∧
        (bound.holds ⟨specialBlog, none⟩ ↔
          asSearched "a%_\\B".toList <:+: asSearched "xA%_\\b\uFFFF".toList) ∧
        (IsLike ('%' :: (escapeLike "a%_\\B".toList ++ ['%'])) "xA%_\\b\uFFFF".toList ↔
          asSearched "a%_\\B".toList <:+: asSearched "xA%_\\b\uFFFF".toList) :=
  ⟨by decide, by decide, rfl, contains_holds_iff (by decide) (by decide) rfl⟩

/-- The search finds one noncharacter where the title has the other. -/
theorem noncharacters_alike :
    ∃ clause bound,
      ofCondition ⟨"contains", .text "\uFFFE"⟩ ⟨"Blog", ⟨"title", .text⟩⟩ = .ok clause ∧
      clause.Binds bound ∧ bound.holdsBounded ⟨specialBlog, none⟩ = .ok true ∧
      ¬("\uFFFE".toList.map Text.asciiLower <:+:
        "xA%_\\b\uFFFF".toList.map Text.asciiLower) := by
  have hholds : (BoundClause.like ⟨"Blog", ⟨"title", .text⟩⟩ (containsPattern "\uFFFE")).holds
      ⟨specialBlog, none⟩ = true := by
    decide +kernel
  refine ⟨_, _, rfl, ⟨_, rfl, rfl⟩, ?_, by decide +kernel⟩
  exact (holdsBounded_like (by decide +kernel)).trans (congrArg Except.ok hholds)

end Clause

end QueryGate
