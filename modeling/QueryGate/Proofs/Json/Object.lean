import Mathlib.Data.List.TakeWhile
import QueryGate.Proofs.Json.Token

/-!
# Objects within a text

A value is read the same whatever stands behind it, so a text that is an object is one from its
opening to its closing brace: cutting off the white space around it changes nothing.
-/

set_option autoImplicit false

namespace QueryGate.Json

variable {α : Type}

theorem exists_blanks (cs : List Char) :
    ∃ blanks, cs = blanks ++ skipBlanks cs ∧ ∀ c ∈ blanks, isBlank c := by
  refine ⟨cs.takeWhile isBlank, List.takeWhile_append_dropWhile.symm, ?_⟩
  intro c hc
  exact List.mem_takeWhile_imp hc

theorem skipBlanks_append {blanks : List Char} (h : ∀ c ∈ blanks, isBlank c) (cs : List Char) :
    skipBlanks (blanks ++ cs) = skipBlanks cs := List.dropWhile_append_of_pos h

theorem skipBlanks_cons {c : Char} (h : isBlank c = false) (cs : List Char) :
    skipBlanks (c :: cs) = c :: cs := List.dropWhile_cons_of_neg (by simp [h])

theorem isBlank_of_skipBlanks {cs rest : List Char} {c : Char} (h : skipBlanks cs = c :: rest) :
    isBlank c = false := by
  have hne : skipBlanks cs ≠ [] := by simp [h]
  have hhead := List.head_dropWhile_not isBlank hne
  simpa [show List.dropWhile isBlank cs = c :: rest from h] using hhead

/-- What white space was skipped before is skipped before every part that starts alike. -/
theorem exists_skipBlanks {cs part rest : List Char} (h : skipBlanks cs = part ++ rest)
    (hpart : part ≠ []) :
    ∃ blanks, cs = blanks ++ (part ++ rest) ∧
      ∀ kept, skipBlanks (blanks ++ (part ++ kept)) = part ++ kept := by
  obtain ⟨blanks, hcs, hblanks⟩ := exists_blanks cs
  obtain ⟨c, part, rfl⟩ := List.exists_cons_of_ne_nil hpart
  refine ⟨blanks, by rw [← h]; exact hcs, ?_⟩
  intro kept
  rw [skipBlanks_append hblanks]
  exact skipBlanks_cons (isBlank_of_skipBlanks h) (part ++ kept)

theorem exists_skipBlanks_cons {cs rest : List Char} {c : Char} (h : skipBlanks cs = c :: rest) :
    ∃ blanks, cs = blanks ++ c :: rest ∧
      ∀ kept, skipBlanks (blanks ++ c :: kept) = c :: kept := by
  have hpart : skipBlanks cs = [c] ++ rest := h
  exact exists_skipBlanks hpart (List.cons_ne_nil c [])

/-- The reader takes items with commas between them, up to the closing character. -/
def IsSeries (closer : Char) (item : List Char → Reading α)
    (series : Nat → List Char → Reading (List α)) : Prop :=
  (∀ cs vs rest, series 0 cs ≠ .ok (vs, rest)) ∧
    ∀ fuel cs vs rest, series (fuel + 1) cs = .ok (vs, rest) ↔
      ∃ v behind, item cs = .ok (v, behind) ∧
        ((skipBlanks behind = closer :: rest ∧ vs = [v]) ∨
          ∃ next ws, skipBlanks behind = ',' :: next ∧
            series fuel (skipBlanks next) = .ok (ws, rest) ∧ vs = v :: ws)

theorem isSeries_readItems (item : List Char → Reading Value) :
    IsSeries ']' item (readItems item) := by
  refine ⟨fun cs vs rest h => (by cases h), ?_⟩
  intro fuel cs vs rest
  constructor
  · intro h
    unfold readItems at h
    split at h
    · cases h
    · rename_i v behind hitem
      refine ⟨v, behind, hitem, ?_⟩
      split at h
      · rename_i hclosed
        obtain ⟨rfl, rfl⟩ := Prod.mk.inj (Except.ok.inj h)
        exact .inl ⟨hclosed, rfl⟩
      · rename_i next hcomma
        obtain ⟨ws, hws, rfl⟩ := map_reading_eq_ok.mp h
        exact .inr ⟨next, ws, hcomma, hws, rfl⟩
      · cases h
  · rintro ⟨v, behind, hitem, ⟨hclosed, rfl⟩ | ⟨next, ws, hcomma, hws, rfl⟩⟩
    · simp [readItems, hitem, hclosed]
    · simp [readItems, hitem, hcomma, hws, Except.map]

def readMember (item : List Char → Reading Value) (cs : List Char) : Reading (String × Value) :=
  match cs with
  | '"' :: rest =>
    match readString rest with
    | .error f => .error f
    | .ok (key, rest) =>
      match skipBlanks rest with
      | ':' :: rest => (item (skipBlanks rest)).map fun (v, rest) => ((key, v), rest)
      | rest => .error ⟨.expectedColon, rest⟩
  | _ => .error ⟨.expectedKey, cs⟩

theorem readMember_eq_ok {item : List Char → Reading Value} {cs rest : List Char} {key : String}
    {v : Value} :
    readMember item cs = .ok ((key, v), rest) ↔
      ∃ behindQuote behindKey behindColon, cs = '"' :: behindQuote ∧
        readString behindQuote = .ok (key, behindKey) ∧ skipBlanks behindKey = ':' :: behindColon ∧
        item (skipBlanks behindColon) = .ok (v, rest) := by
  constructor
  · intro h
    unfold readMember at h
    split at h
    · rename_i behindQuote
      split at h
      · cases h
      · rename_i key' behindKey hkey
        split at h
        · rename_i behindColon hcolon
          obtain ⟨w, hw, hpair⟩ := map_reading_eq_ok.mp h
          obtain ⟨rfl, rfl⟩ := Prod.mk.inj hpair
          exact ⟨behindQuote, behindKey, behindColon, rfl, hkey, hcolon, hw⟩
        · cases h
    · cases h
  · rintro ⟨behindQuote, behindKey, behindColon, rfl, hkey, hcolon, hitem⟩
    simp [readMember, hkey, hcolon, hitem, Except.map]

theorem isSeries_readMembers (item : List Char → Reading Value) :
    IsSeries '}' (readMember item) (readMembers item) := by
  refine ⟨fun cs vs rest h => (by cases h), ?_⟩
  intro fuel cs vs rest
  constructor
  · intro h
    unfold readMembers at h
    split at h
    · rename_i behindQuote
      split at h
      · cases h
      · rename_i key behindKey hkey
        split at h
        · rename_i behindColon hcolon
          split at h
          · cases h
          · rename_i v behind hitem
            refine ⟨(key, v), behind, readMember_eq_ok.mpr
              ⟨behindQuote, behindKey, behindColon, rfl, hkey, hcolon, hitem⟩, ?_⟩
            split at h
            · rename_i hclosed
              obtain ⟨rfl, rfl⟩ := Prod.mk.inj (Except.ok.inj h)
              exact .inl ⟨hclosed, rfl⟩
            · rename_i next hcomma
              obtain ⟨ws, hws, rfl⟩ := map_reading_eq_ok.mp h
              exact .inr ⟨next, ws, hcomma, hws, rfl⟩
            · cases h
        · cases h
    · cases h
  · rintro ⟨⟨key, v⟩, behind, hmember, hrest⟩
    obtain ⟨behindQuote, behindKey, behindColon, rfl, hkey, hcolon, hitem⟩ :=
      readMember_eq_ok.mp hmember
    rcases hrest with ⟨hclosed, rfl⟩ | ⟨next, ws, hcomma, hws, rfl⟩
    · simp [readMembers, hkey, hcolon, hitem, hclosed]
    · simp [readMembers, hkey, hcolon, hitem, hcomma, hws, Except.map]

theorem steady_readMember {item : List Char → Reading Value} (h : Steady item) :
    Steady (readMember item) := by
  rintro cs ⟨key, v⟩ rest hmember
  obtain ⟨behindQuote, behindKey, behindColon, rfl, hkey, hcolon, hitem⟩ :=
    readMember_eq_ok.mp hmember
  obtain ⟨keyPart, -, rfl, htakeKey⟩ := steady_readString _ _ _ hkey
  obtain ⟨valuePart, hvalue, hbehind, htakeValue⟩ := h _ _ _ hitem
  obtain ⟨blanks, rfl, hskip⟩ := exists_skipBlanks_cons hcolon
  obtain ⟨blanks', rfl, hskip'⟩ := exists_skipBlanks hbehind hvalue
  refine ⟨'"' :: (keyPart ++ (blanks ++ ':' :: (blanks' ++ valuePart))), by simp, by simp, ?_⟩
  intro kept hkept
  have hread : readString (keyPart ++ (blanks ++ ':' :: (blanks' ++ (valuePart ++ kept)))) =
      .ok (key, blanks ++ ':' :: (blanks' ++ (valuePart ++ kept))) :=
    htakeKey _ (by simpa using hkept)
  have hvalueRead : item (skipBlanks (blanks' ++ (valuePart ++ kept))) = .ok (v, kept) := by
    rw [hskip']
    exact htakeValue kept hkept
  exact readMember_eq_ok.mpr ⟨_, _, _, by simp, hread, hskip _, hvalueRead⟩

/-- A row of items ends with its closing character; as much fuel as characters up to there
suffices. -/
theorem exists_series {closer : Char} {item : List Char → Reading α}
    {series : Nat → List Char → Reading (List α)} (hseries : IsSeries closer item series)
    (hitem : Steady item) {fuel : Nat} {cs rest : List Char} {vs : List α}
    (h : series fuel cs = .ok (vs, rest)) :
    ∃ body, cs = body ++ closer :: rest ∧
      ∀ kept, kept <+: rest → ∀ fuel', body.length < fuel' →
        series fuel' (body ++ closer :: kept) = .ok (vs, kept) := by
  -- the fuel that was given need not suffice for another text, so the bound is on the body
  induction fuel generalizing cs vs with
  | zero => exact absurd h (hseries.1 cs vs rest)
  | succ fuel ih =>
    obtain ⟨v, behind, hv, hend⟩ := (hseries.2 _ _ _ _).mp h
    obtain ⟨part, hne, rfl, htake⟩ := hitem _ _ _ hv
    have hlen : 0 < part.length := List.length_pos_of_ne_nil hne
    rcases hend with ⟨hclosed, rfl⟩ | ⟨next, ws, hcomma, hws, rfl⟩
    · obtain ⟨blanks, rfl, hskip⟩ := exists_skipBlanks_cons hclosed
      refine ⟨part ++ blanks, by simp, ?_⟩
      intro kept hkept fuel' hfuel
      obtain ⟨fuel', rfl⟩ : ∃ n, fuel' = n + 1 := ⟨fuel' - 1, by omega⟩
      have hstep : item (part ++ (blanks ++ closer :: kept)) = .ok (v, blanks ++ closer :: kept) :=
        htake _ (by simpa using hkept)
      rw [List.append_assoc]
      exact (hseries.2 _ _ _ _).mpr ⟨v, _, hstep, .inl ⟨hskip kept, rfl⟩⟩
    · obtain ⟨body, hbehind, hbody⟩ := ih hws
      obtain ⟨blanks, rfl, hskip⟩ := exists_skipBlanks_cons hcomma
      have hbehind' : skipBlanks next = (body ++ [closer]) ++ rest := by simpa using hbehind
      obtain ⟨blanks', rfl, hskip'⟩ := exists_skipBlanks hbehind' (by simp)
      refine ⟨part ++ (blanks ++ ',' :: (blanks' ++ body)), by simp, ?_⟩
      intro kept hkept fuel' hfuel
      simp only [List.length_append, List.length_cons] at hfuel
      obtain ⟨fuel', rfl⟩ : ∃ n, fuel' = n + 1 := ⟨fuel' - 1, by omega⟩
      have hstep : item (part ++ (blanks ++ ',' :: (blanks' ++ (body ++ [closer] ++ kept)))) =
          .ok (v, blanks ++ ',' :: (blanks' ++ (body ++ [closer] ++ kept))) :=
        htake _ (by simpa using hkept)
      have hnext : series fuel' (skipBlanks (blanks' ++ (body ++ [closer] ++ kept))) =
          .ok (ws, kept) := by
        rw [hskip', List.append_assoc]
        exact hbody kept hkept fuel' (by omega)
      have hshape : part ++ (blanks ++ ',' :: (blanks' ++ body)) ++ closer :: kept =
          part ++ (blanks ++ ',' :: (blanks' ++ (body ++ [closer] ++ kept))) := by simp
      rw [hshape]
      exact (hseries.2 _ _ _ _).mpr ⟨v, _, hstep, .inr ⟨_, ws, hskip _, hnext, rfl⟩⟩

/-- The items up to the closing character, none if that stands there already. -/
def enclosed (closer : Char) (series : Nat → List Char → Reading (List α)) (cs : List Char) :
    Reading (List α) :=
  match skipBlanks cs with
  | c :: rest => if c = closer then .ok ([], rest) else series ((c :: rest).length + 1) (c :: rest)
  | [] => series 1 []

theorem exists_enclosed {closer : Char} {item : List Char → Reading α}
    {series : Nat → List Char → Reading (List α)} (hseries : IsSeries closer item series)
    (hitem : Steady item) {cs rest : List Char} {vs : List α}
    (h : enclosed closer series cs = .ok (vs, rest)) :
    ∃ body, cs = body ++ closer :: rest ∧
      ∀ kept, kept <+: rest → enclosed closer series (body ++ closer :: kept) = .ok (vs, kept) := by
  unfold enclosed at h
  split at h
  · rename_i c behind hskipped
    split at h
    · rename_i hc
      obtain ⟨rfl, rfl⟩ := Prod.mk.inj (Except.ok.inj h)
      subst hc
      obtain ⟨blanks, rfl, hskip⟩ := exists_skipBlanks_cons hskipped
      refine ⟨blanks, rfl, ?_⟩
      intro kept hkept
      simp [enclosed, hskip]
    · rename_i hc
      obtain ⟨body, hbody, htake⟩ := exists_series hseries hitem h
      cases body with
      | nil => exact absurd (List.cons.inj hbody).1 hc
      | cons c' body =>
        obtain ⟨rfl, rfl⟩ := List.cons.inj hbody
        obtain ⟨blanks, rfl, hskip⟩ := exists_skipBlanks_cons hskipped
        refine ⟨blanks ++ c :: body, by simp, ?_⟩
        intro kept hkept
        have hfuel : (c :: body).length < (c :: body ++ closer :: kept).length + 1 := by
          simp only [List.length_append, List.length_cons]
          omega
        have hread := htake kept hkept _ hfuel
        simp only [enclosed, List.append_assoc, List.cons_append, hskip, if_neg hc]
        exact hread
  · obtain ⟨body, hbody, -⟩ := exists_series hseries hitem h
    simp at hbody

theorem readValue_list (depth : Nat) (cs : List Char) :
    readValue (depth + 1) ('[' :: cs) =
      (enclosed ']' (readItems (readValue depth)) cs).map fun (vs, rest) => (.list vs, rest) := by
  rw [readValue, enclosed]
  rcases hskipped : skipBlanks cs with _ | ⟨c, rest⟩
  · rfl
  · by_cases hc : c = ']'
    · subst hc
      rfl
    · simp only [if_neg hc]
      split
      · rename_i heq
        exact absurd (List.cons.inj heq).1 hc
      · rfl

theorem readValue_object (depth : Nat) (cs : List Char) :
    readValue (depth + 1) ('{' :: cs) =
      (enclosed '}' (readMembers (readValue depth)) cs).map fun (ms, rest) =>
        (.object (Assoc.ofPairs ms), rest) := by
  rw [readValue, enclosed]
  rcases hskipped : skipBlanks cs with _ | ⟨c, rest⟩
  · rfl
  · by_cases hc : c = '}'
    · subst hc
      rfl
    · simp only [if_neg hc]
      split
      · rename_i heq
        exact absurd (List.cons.inj heq).1 hc
      · rfl

theorem readValue_string (depth : Nat) (cs : List Char) :
    readValue depth ('"' :: cs) = (readString cs).map fun (s, rest) => (.text s, rest) := by
  cases depth <;> rfl

theorem readValue_atom {cs : List Char} (hstring : ∀ rest, cs ≠ '"' :: rest)
    (hlist : ∀ rest, cs ≠ '[' :: rest) (hobject : ∀ rest, cs ≠ '{' :: rest) (depth : Nat) :
    readValue depth cs = readAtom cs := by
  unfold readValue
  split
  · exact absurd rfl (hstring _)
  · exact absurd rfl (hlist _)
  · exact absurd rfl (hobject _)
  · exact absurd rfl (hlist _)
  · exact absurd rfl (hobject _)
  · rfl

/-- What starts with the opening character ends with the closing one, whatever stands behind. -/
def Closes (opener closer : Char) (read : List Char → Reading α) : Prop :=
  ∀ cs v rest, read (opener :: cs) = .ok (v, rest) →
    ∃ body, cs = body ++ closer :: rest ∧
      ∀ kept, kept <+: rest → read (opener :: (body ++ closer :: kept)) = .ok (v, kept)

theorem closes_of_eq {β : Type} {opener closer : Char} {item : List Char → Reading α}
    {series : Nat → List Char → Reading (List α)} {read : List Char → Reading β} {f : List α → β}
    (hread : ∀ cs, read (opener :: cs) =
      (enclosed closer series cs).map fun (vs, rest) => (f vs, rest))
    (hseries : IsSeries closer item series) (hitem : Steady item) : Closes opener closer read := by
  intro cs v rest h
  rw [hread] at h
  obtain ⟨vs, hvs, rfl⟩ := map_reading_eq_ok.mp h
  obtain ⟨body, rfl, htake⟩ := exists_enclosed hseries hitem hvs
  refine ⟨body, rfl, ?_⟩
  intro kept hkept
  rw [hread, htake kept hkept]
  rfl

theorem closes_list {depth : Nat} (hvalue : Steady (readValue depth)) :
    Closes '[' ']' (readValue (depth + 1)) :=
  closes_of_eq (readValue_list depth) (isSeries_readItems _) hvalue

theorem closes_object {depth : Nat} (hvalue : Steady (readValue depth)) :
    Closes '{' '}' (readValue (depth + 1)) :=
  closes_of_eq (f := fun ms => .object (Assoc.ofPairs ms)) (readValue_object depth)
    (isSeries_readMembers _) (steady_readMember hvalue)

theorem Closes.exists_part {opener closer : Char} {read : List Char → Reading α}
    (hcloses : Closes opener closer read) {cs rest : List Char} {v : α}
    (h : read (opener :: cs) = .ok (v, rest)) :
    ∃ part, part ≠ [] ∧ opener :: cs = part ++ rest ∧
      ∀ kept, kept <+: rest → read (part ++ kept) = .ok (v, kept) := by
  obtain ⟨body, rfl, htake⟩ := hcloses _ _ _ h
  refine ⟨opener :: (body ++ [closer]), List.cons_ne_nil _ _, by simp, ?_⟩
  intro kept hkept
  simpa using htake kept hkept

theorem steady_of_closes {depth : Nat} (hlist : Closes '[' ']' (readValue depth))
    (hobject : Closes '{' '}' (readValue depth)) : Steady (readValue depth) := by
  intro cs v rest h
  by_cases hquote : ∃ rest, cs = '"' :: rest
  · obtain ⟨cs, rfl⟩ := hquote
    rw [readValue_string] at h
    obtain ⟨s, hs, rfl⟩ := map_reading_eq_ok.mp h
    obtain ⟨part, -, rfl, htake⟩ := steady_readString _ _ _ hs
    refine ⟨'"' :: part, by simp, rfl, ?_⟩
    intro kept hkept
    rw [List.cons_append, readValue_string, htake kept hkept]
    rfl
  · by_cases hbracket : ∃ rest, cs = '[' :: rest
    · obtain ⟨cs, rfl⟩ := hbracket
      exact hlist.exists_part h
    · by_cases hbrace : ∃ rest, cs = '{' :: rest
      · obtain ⟨cs, rfl⟩ := hbrace
        exact hobject.exists_part h
      · have hquote' := not_exists.mp hquote
        have hbracket' := not_exists.mp hbracket
        have hbrace' := not_exists.mp hbrace
        rw [readValue_atom hquote' hbracket' hbrace'] at h
        obtain ⟨part, hne, rfl, htake⟩ := steady_readAtom _ _ _ h
        refine ⟨part, hne, rfl, ?_⟩
        intro kept hkept
        have hcut : part ++ kept <+: part ++ rest := by simpa using hkept
        rw [readValue_atom (ne_cons_of_cut hquote' hcut) (ne_cons_of_cut hbracket' hcut)
          (ne_cons_of_cut hbrace' hcut)]
        exact htake kept hkept

theorem steady_readValue (depth : Nat) : Steady (readValue depth) := by
  induction depth with
  | zero =>
    refine steady_of_closes ?_ ?_
    · intro cs v rest h
      cases h
    · intro cs v rest h
      cases h
  | succ depth ih => exact steady_of_closes (closes_list ih) (closes_object ih)

theorem readNumber_ne_object {cs rest : List Char} {ms : List (String × Value)} :
    readNumber cs ≠ .ok (.object ms, rest) := by
  intro h
  rw [readNumber_eq] at h
  dsimp only at h
  split at h
  · cases h
  · obtain ⟨n, hn, hpair⟩ := map_eq_ok.mp h
    obtain ⟨rfl, -⟩ := Prod.mk.inj hpair
    unfold numberOf at hn
    split at hn
    · split at hn <;> cases hn
    · cases hn

theorem readAtom_ne_object {cs rest : List Char} {ms : List (String × Value)} :
    readAtom cs ≠ .ok (.object ms, rest) := by
  intro h
  rw [readAtom_eq] at h
  split at h
  · rename_i found hfound
    obtain rfl := Except.ok.inj h
    obtain ⟨word, hmem, hword⟩ := List.exists_of_findSome?_eq_some hfound
    have hall : ∀ w ∈ words, ∀ ms, w.2 ≠ .object ms := by
      intro w hw ms
      simp only [words, List.mem_cons, List.not_mem_nil, or_false] at hw
      rcases hw with rfl | rfl | rfl | rfl | rfl | rfl <;> simp
    exact hall word hmem ms (afterWord_eq_some.mp hword).1
  · exact readNumber_ne_object h

theorem exists_of_readValue_object {depth : Nat} {cs rest : List Char}
    {ms : List (String × Value)} (h : readValue depth cs = .ok (.object ms, rest)) :
    ∃ behind, cs = '{' :: behind := by
  by_contra hbrace
  by_cases hquote : ∃ rest, cs = '"' :: rest
  · obtain ⟨cs, rfl⟩ := hquote
    rw [readValue_string] at h
    obtain ⟨s, -, htext⟩ := map_reading_eq_ok.mp h
    cases htext
  · by_cases hbracket : ∃ rest, cs = '[' :: rest
    · obtain ⟨cs, rfl⟩ := hbracket
      cases depth with
      | zero => cases h
      | succ depth =>
        rw [readValue_list] at h
        obtain ⟨vs, -, hlist⟩ := map_reading_eq_ok.mp h
        cases hlist
    · rw [readValue_atom (not_exists.mp hquote) (not_exists.mp hbracket) (not_exists.mp hbrace)]
        at h
      exact readAtom_ne_object h

theorem readAll_eq_ok {cs : List Char} {v : Value} :
    readAll cs = .ok v ↔
      ∃ rest, readValue nestingLimit (skipBlanks cs) = .ok (v, rest) ∧ skipBlanks rest = [] := by
  unfold readAll
  split
  · rename_i f hf
    simp [hf]
  · rename_i w rest hw
    simp only [hw, Except.ok.injEq, Prod.mk.injEq]
    split
    · rename_i hrest
      simp [hrest]
    · rename_i hrest
      constructor
      · intro h
        cases h
      · rintro ⟨rest', ⟨-, rfl⟩, hnil⟩
        exact absurd hnil hrest

theorem read_eq_ok {cs : List Char} {v : Value} :
    read (String.ofList cs) = .ok v ↔ cs.head? ≠ some byteOrderMark ∧ readAll cs = .ok v := by
  unfold read
  rw [String.toList_ofList]
  cases cs with
  | nil => simp
  | cons c cs =>
    by_cases hc : c = byteOrderMark
    · simp [hc]
    · simp [hc]

theorem exists_read_object {cs : List Char} {ms : List (String × Value)}
    (h : read (String.ofList cs) = .ok (.object ms)) :
    ∃ before body after, cs = before ++ '{' :: (body ++ '}' :: after) ∧
      (∀ c ∈ before, isBlank c) ∧ (∀ c ∈ after, isBlank c) ∧
      read (String.ofList ('{' :: (body ++ ['}']))) = .ok (.object ms) := by
  obtain ⟨rest, hvalue, hrest⟩ := readAll_eq_ok.mp (read_eq_ok.mp h).2
  obtain ⟨behind, hbrace⟩ := exists_of_readValue_object hvalue
  obtain ⟨before, hcs, hbefore⟩ := exists_blanks cs
  rw [hbrace] at hvalue hcs
  obtain ⟨body, rfl, htake⟩ : ∃ body, behind = body ++ '}' :: rest ∧
      ∀ kept, kept <+: rest →
        readValue nestingLimit ('{' :: (body ++ '}' :: kept)) = .ok (.object ms, kept) :=
    closes_object (steady_readValue _) _ _ _ hvalue
  refine ⟨before, body, rest, hcs, hbefore, ?_, ?_⟩
  · exact List.dropWhile_eq_nil_iff.mp hrest
  · refine read_eq_ok.mpr ⟨by simp [byteOrderMark], readAll_eq_ok.mpr ⟨[], ?_, rfl⟩⟩
    rw [skipBlanks_cons (by decide)]
    exact htake [] List.nil_prefix

end QueryGate.Json
