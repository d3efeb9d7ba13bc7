import QueryGate.Proofs.Json.Number

/-!
# Words and strings do not depend on what follows them
-/

set_option autoImplicit false

namespace QueryGate.Json

/-- The rest behind a word at the front, with the value that the word stands for. -/
def afterWord (cs : List Char) (word : List Char × Value) : Option (Value × List Char) :=
  (word.1.isPrefixOf? cs).map fun rest => (word.2, rest)

theorem readAtom_eq (cs : List Char) :
    readAtom cs = match words.findSome? (afterWord cs) with
      | some found => .ok found
      | none => readNumber cs := rfl

theorem afterWord_eq_some {cs : List Char} {word : List Char × Value} {v : Value}
    {rest : List Char} : afterWord cs word = some (v, rest) ↔ word.2 = v ∧ cs = word.1 ++ rest := by
  simp only [afterWord, Option.map_eq_some_iff, Prod.mk.injEq,
    List.isPrefixOf?_eq_some_iff_append_eq]
  constructor
  · rintro ⟨rest', hcs, hv, rfl⟩
    exact ⟨hv, hcs.symm⟩
  · rintro ⟨hv, hcs⟩
    exact ⟨rest, hcs.symm, hv, rfl⟩

theorem afterWord_eq_none_of_cut {cs kept : List Char} {word : List Char × Value}
    (h : afterWord cs word = none) (hkept : kept <+: cs) : afterWord kept word = none := by
  by_contra hsome
  obtain ⟨⟨v, rest⟩, hfound⟩ := Option.ne_none_iff_exists'.mp hsome
  obtain ⟨hv, rfl⟩ := afterWord_eq_some.mp hfound
  obtain ⟨more, rfl⟩ := hkept
  rw [afterWord_eq_some.mpr ⟨hv, List.append_assoc _ _ _⟩] at h
  cases h

theorem steady_readAtom : Steady readAtom := by
  intro cs v rest h
  rw [readAtom_eq] at h
  split at h
  · rename_i found hfound
    obtain rfl := Except.ok.inj h
    obtain ⟨earlier, word, later, hwords, hword, hearlier⟩ := List.findSome?_eq_some_iff.mp hfound
    obtain ⟨hv, rfl⟩ := afterWord_eq_some.mp hword
    have hne : word.1 ≠ [] := by
      have hall : ∀ w ∈ words, w.1 ≠ [] := by decide
      exact hall word (by simp [hwords])
    refine ⟨word.1, hne, rfl, ?_⟩
    intro kept hkept
    have hcut : word.1 ++ kept <+: word.1 ++ rest := (List.prefix_append_right_inj _).mpr hkept
    have hkeptFound : words.findSome? (afterWord (word.1 ++ kept)) = some (v, kept) :=
      List.findSome?_eq_some_iff.mpr ⟨earlier, word, later, hwords,
        afterWord_eq_some.mpr ⟨hv, rfl⟩,
        fun w hw => afterWord_eq_none_of_cut (hearlier w hw) hcut⟩
    rw [readAtom_eq, hkeptFound]
  · rename_i hnone
    obtain ⟨part, hne, rfl, hpart⟩ := steady_readNumber _ _ _ h
    refine ⟨part, hne, rfl, ?_⟩
    intro kept hkept
    have hcut : part ++ kept <+: part ++ rest := (List.prefix_append_right_inj _).mpr hkept
    have hkeptNone : words.findSome? (afterWord (part ++ kept)) = none :=
      List.findSome?_eq_none_iff.mpr fun w hw =>
        afterWord_eq_none_of_cut (List.findSome?_eq_none_iff.mp hnone w hw) hcut
    rw [readAtom_eq, hkeptNone]
    exact hpart kept hkept

theorem lowHalf_eq_none_of_cut {cs kept : List Char} (h : lowHalf cs = .ok none)
    (hkept : kept <+: cs) : lowHalf kept = .ok none := by
  obtain ⟨more, rfl⟩ := hkept
  unfold lowHalf
  split
  · rename_i a b c d rest
    by_cases hrest : rest.isEmpty
    · rw [if_pos hrest]
    · rw [if_neg hrest]
      have hmore : ¬(rest ++ more).isEmpty := by simp_all
      simp only [lowHalf, List.cons_append, if_neg hmore] at h
      split at h
      · cases h
      · rename_i n hn
        have hlow : ¬isLowSurrogate n := by
          intro hlow
          simp [hlow] at h
        simp [hlow]
  · rfl

theorem lowHalf_eq_some {cs rest : List Char} {n : Nat} (h : lowHalf cs = .ok (some (n, rest))) :
    ∃ part, cs = part ++ rest ∧
      ∀ kept, kept ≠ [] → lowHalf (part ++ kept) = .ok (some (n, kept)) := by
  unfold lowHalf at h
  split at h
  · rename_i a b c d tail
    split at h
    · cases h
    · split at h
      · cases h
      · rename_i m hm
        split at h
        · rename_i hlow
          obtain ⟨rfl, rfl⟩ : m = n ∧ tail = rest := by simpa using h
          refine ⟨['\\', 'u', a, b, c, d], rfl, ?_⟩
          intro kept hkept
          simp [lowHalf, hm, hlow, hkept]
        · cases h
  · cases h

theorem exists_unicodeEscape {cs rest : List Char} {x : Char}
    (h : unicodeEscape cs = .ok (x, rest)) :
    ∃ part, part ≠ [] ∧ cs = part ++ rest ∧
      ∀ kept, kept ≠ [] → kept <+: rest → unicodeEscape (part ++ kept) = .ok (x, kept) := by
  unfold unicodeEscape at h
  split at h
  · rename_i u a b c d tail
    split at h
    · cases h
    · split at h
      · cases h
      · rename_i n hn
        by_cases hhigh : isHighSurrogate n
        · rw [if_pos hhigh] at h
          split at h
          · cases h
          · rename_i m behind hlow
            obtain ⟨rfl, rfl⟩ := Prod.mk.inj (Except.ok.inj h)
            obtain ⟨part, rfl, hpart⟩ := lowHalf_eq_some hlow
            refine ⟨u :: a :: b :: c :: d :: part, List.cons_ne_nil _ _, rfl, ?_⟩
            intro kept hne hkept
            simp [unicodeEscape, hn, hhigh, hpart kept hne, hne]
          · rename_i hlow
            obtain ⟨rfl, rfl⟩ := Prod.mk.inj (Except.ok.inj h)
            refine ⟨[u, a, b, c, d], List.cons_ne_nil _ _, rfl, ?_⟩
            intro kept hne hkept
            simp [unicodeEscape, hn, hhigh, lowHalf_eq_none_of_cut hlow hkept, hne]
        · rw [if_neg hhigh] at h
          obtain ⟨rfl, rfl⟩ := Prod.mk.inj (Except.ok.inj h)
          refine ⟨[u, a, b, c, d], List.cons_ne_nil _ _, rfl, ?_⟩
          intro kept hne hkept
          simp [unicodeEscape, hn, hhigh, hne]
  · cases h

def readChar (start : List Char) : List Char → Reading Char
  | [] => .error ⟨.unterminated, start⟩
  | c :: rest =>
    if c = '\\' then
      match rest with
      | [] => .error ⟨.unterminated, start⟩
      | e :: behind =>
        if e = 'u' then unicodeEscape rest
        else
          match shortEscape? e with
          | none => .error ⟨.badEscape, c :: rest⟩
          | some x => .ok (x, behind)
    else if c.toNat < 0x20 then .error ⟨.controlCharacter, c :: rest⟩
    else .ok (c, rest)

theorem readChars_succ {c : Char} (hc : c ≠ '"') (start : List Char) (fuel : Nat)
    (rest : List Char) :
    readChars start (fuel + 1) (c :: rest) =
      match readChar start (c :: rest) with
      | .error f => .error f
      | .ok (x, tail) => readChars.cons x (readChars start fuel tail) := by
  simp only [readChars, readChar, if_neg hc]
  by_cases hescape : c = '\\'
  · simp only [if_pos hescape]
    cases rest with
    | nil => rfl
    | cons e behind =>
      by_cases hu : e = 'u'
      · cases unicodeEscape (e :: behind) <;> simp only [if_pos hu]
      · cases hshort : shortEscape? e <;> simp only [if_neg hu, hshort]
  · by_cases hcontrol : c.toNat < 0x20
    · simp only [if_neg hescape, if_pos hcontrol]
    · simp only [if_neg hescape, if_neg hcontrol]

theorem exists_readChar {start cs rest : List Char} {x : Char}
    (h : readChar start cs = .ok (x, rest)) :
    ∃ part, part ≠ [] ∧ cs = part ++ rest ∧
      ∀ start' kept, kept ≠ [] → kept <+: rest →
        readChar start' (part ++ kept) = .ok (x, kept) := by
  unfold readChar at h
  split at h
  · cases h
  · rename_i c behind
    by_cases hescape : c = '\\'
    · rw [if_pos hescape] at h
      split at h
      · cases h
      · rename_i e tail
        by_cases hu : e = 'u'
        · rw [if_pos hu] at h
          -- A pair of halves is read as one character, so the part is as long as the escape says.
          obtain ⟨part, hne, hpart, htake⟩ := exists_unicodeEscape h
          refine ⟨c :: part, List.cons_ne_nil _ _, by rw [hpart]; rfl, ?_⟩
          intro start' kept hkept hprefix
          obtain ⟨e', part, rfl⟩ := List.exists_cons_of_ne_nil hne
          obtain ⟨rfl, -⟩ := List.cons.inj hpart
          rw [← htake kept hkept hprefix]
          simp [readChar, hescape, hu]
        · rw [if_neg hu] at h
          split at h
          · cases h
          · rename_i y hshort
            obtain ⟨rfl, rfl⟩ := Prod.mk.inj (Except.ok.inj h)
            refine ⟨[c, e], List.cons_ne_nil _ _, rfl, ?_⟩
            intro start' kept hkept hprefix
            simp [readChar, hescape, hu, hshort]
    · rw [if_neg hescape] at h
      split at h
      · cases h
      · rename_i hcontrol
        obtain ⟨rfl, rfl⟩ := Prod.mk.inj (Except.ok.inj h)
        refine ⟨[c], List.cons_ne_nil _ _, rfl, ?_⟩
        intro start' kept hkept hprefix
        simp only [readChar, List.cons_append, List.nil_append, if_neg hescape, if_neg hcontrol]

/-- A string ends with its quotation mark; as much fuel as characters up to there suffices. -/
theorem exists_readChars {start : List Char} {fuel : Nat} {cs rest xs : List Char}
    (h : readChars start fuel cs = .ok (xs, rest)) :
    ∃ body, cs = body ++ '"' :: rest ∧
      ∀ kept, kept <+: rest → ∀ start' fuel', body.length < fuel' →
        readChars start' fuel' (body ++ '"' :: kept) = .ok (xs, kept) := by
  induction fuel generalizing cs xs with
  | zero => cases h
  | succ fuel ih =>
    cases cs with
    | nil => cases h
    | cons c cs =>
      by_cases hquote : c = '"'
      · subst hquote
        obtain ⟨rfl, rfl⟩ : [] = xs ∧ cs = rest := Prod.mk.inj (Except.ok.inj h)
        refine ⟨[], rfl, ?_⟩
        intro kept hkept start' fuel' hfuel
        obtain ⟨more, rfl⟩ := Nat.exists_eq_add_of_lt hfuel
        simp [readChars]
      · rw [readChars_succ hquote] at h
        split at h
        · cases h
        · rename_i x tail hchar
          obtain ⟨ys, hys, rfl⟩ := map_reading_eq_ok.mp h
          obtain ⟨body, rfl, hbody⟩ := ih hys
          obtain ⟨part, hne, hpart, htake⟩ := exists_readChar hchar
          obtain ⟨c', part, rfl⟩ := List.exists_cons_of_ne_nil hne
          obtain ⟨rfl, rfl⟩ := List.cons.inj hpart
          refine ⟨c :: part ++ body, by simp, ?_⟩
          intro kept hkept start' fuel' hfuel
          -- the quotation mark stays, so an escape at the end of the body has something behind it
          have hcut : body ++ '"' :: kept <+: body ++ '"' :: rest := by
            rw [List.prefix_append_right_inj, List.cons_prefix_cons]
            exact ⟨rfl, hkept⟩
          have hstep := htake start' (body ++ '"' :: kept) (by simp) hcut
          simp only [List.length_append, List.length_cons] at hfuel
          obtain ⟨fuel', rfl⟩ : ∃ n, fuel' = n + 1 := ⟨fuel' - 1, by omega⟩
          rw [List.append_assoc, List.cons_append, readChars_succ hquote, ← List.cons_append, hstep]
          simp only [hbody kept hkept start' fuel' (by omega)]
          rfl

theorem steady_readString : Steady readString := by
  intro cs s rest h
  obtain ⟨xs, hxs, rfl⟩ := map_reading_eq_ok.mp h
  obtain ⟨body, rfl, hbody⟩ := exists_readChars hxs
  refine ⟨body ++ ['"'], by simp, by simp, ?_⟩
  intro kept hkept
  have hfuel : body.length < (body ++ '"' :: kept).length + 1 := by
    simp only [List.length_append, List.length_cons]
    omega
  have hread := hbody kept hkept ('"' :: (body ++ '"' :: kept)) _ hfuel
  rw [List.append_assoc, List.singleton_append, readString, hread]
  rfl

end QueryGate.Json
