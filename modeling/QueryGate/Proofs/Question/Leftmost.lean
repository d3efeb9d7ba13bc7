import QueryGate.Proofs.Question.Keywords

/-!
# What the words of a question name

The keyword that stands leftmost names the table, and no two tables can be named there. The limit is
the leftmost word that is a number of one to four digits; a number that is part of a longer word, or
has more digits, is none. Main statement: `Question.rawSpec_leftmost`.
-/

set_option autoImplicit false

namespace QueryGate

namespace Text

def OccursAt (pattern text : List Char) (position : Nat) : Prop :=
  ∃ before after, text = before ++ (pattern ++ after) ∧ before.length = position

theorem occursAt_zero {pattern text : List Char} : OccursAt pattern text 0 ↔ pattern <+: text := by
  constructor
  · rintro ⟨before, after, rfl, hlength⟩
    rw [List.eq_nil_of_length_eq_zero hlength]
    exact ⟨after, rfl⟩
  · rintro ⟨after, rfl⟩
    exact ⟨[], after, rfl, rfl⟩

theorem occursAt_succ {pattern text : List Char} {c : Char} {position : Nat} :
    OccursAt pattern (c :: text) (position + 1) ↔ OccursAt pattern text position := by
  constructor
  · rintro ⟨before, after, htext, hlength⟩
    cases before with
    | nil => nomatch hlength
    | cons d before => exact ⟨before, after, (List.cons.inj htext).2, Nat.succ.inj hlength⟩
  · rintro ⟨before, after, rfl, rfl⟩
    exact ⟨c :: before, after, rfl, rfl⟩

theorem not_occursAt_succ_nil {pattern : List Char} {position : Nat} :
    ¬OccursAt pattern [] (position + 1) := by
  rintro ⟨before, after, htext, hlength⟩
  rw [(List.append_eq_nil_iff.mp htext.symm).1] at hlength
  nomatch hlength

theorem findFrom?_eq (pattern text : List Char) (start : Nat) :
    findFrom? pattern text start = (find? pattern text).map (start + ·) := by
  induction text generalizing start with
  | nil =>
    rw [find?, findFrom?, findFrom?]
    split <;> rfl
  | cons c rest ih =>
    rw [find?, findFrom?, findFrom?]
    split
    · rfl
    · rw [ih, ih (0 + 1), Option.map_map]
      congr 1
      funext position
      simp only [Function.comp_apply]
      omega

theorem find?_cons (pattern : List Char) (c : Char) (rest : List Char) :
    find? pattern (c :: rest) =
      if pattern.isPrefixOf (c :: rest) then some 0 else (find? pattern rest).map (1 + ·) := by
  rw [← findFrom?_eq, find?, findFrom?]

/-- The position that is found is the first one, and none is found only if there is none. -/
theorem find?_cases (pattern text : List Char) :
    (∃ position, find? pattern text = some position ∧ OccursAt pattern text position ∧
      ∀ other, OccursAt pattern text other → position ≤ other) ∨
    (find? pattern text = none ∧ ∀ other, ¬OccursAt pattern text other) := by
  induction text with
  | nil =>
    by_cases hprefix : pattern.isPrefixOf []
    · have hfound : find? pattern [] = some 0 := if_pos hprefix
      have hhere : OccursAt pattern [] 0 :=
        occursAt_zero.mpr (List.isPrefixOf_iff_prefix.mp hprefix)
      exact .inl ⟨0, hfound, hhere, fun _ _ => Nat.zero_le _⟩
    · refine .inr ⟨if_neg hprefix, fun other => ?_⟩
      cases other with
      | zero => exact fun h => hprefix (List.isPrefixOf_iff_prefix.mpr (occursAt_zero.mp h))
      | succ other => exact not_occursAt_succ_nil
  | cons c rest ih =>
    rw [find?_cons]
    by_cases hprefix : pattern.isPrefixOf (c :: rest)
    · have hhere := occursAt_zero.mpr (List.isPrefixOf_iff_prefix.mp hprefix)
      exact .inl ⟨0, if_pos hprefix, hhere, fun _ _ => Nat.zero_le _⟩
    · rw [if_neg hprefix]
      -- What does not stand here stands in the rest, one place earlier.
      have hlater : ∀ other, OccursAt pattern (c :: rest) other →
          ∃ position, other = position + 1 ∧ OccursAt pattern rest position := by
        intro other h
        cases other with
        | zero => exact absurd (List.isPrefixOf_iff_prefix.mpr (occursAt_zero.mp h)) hprefix
        | succ position => exact ⟨position, rfl, occursAt_succ.mp h⟩
      rcases ih with ⟨position, hfound, hoccurs, hfirst⟩ | ⟨hnone, hnever⟩
      · rw [hfound]
        refine .inl ⟨1 + position, rfl, ?_, ?_⟩
        · rw [Nat.add_comm]
          exact occursAt_succ.mpr hoccurs
        · intro other h
          obtain ⟨position', rfl, hrest⟩ := hlater other h
          have hle := hfirst position' hrest
          omega
      · rw [hnone]
        refine .inr ⟨rfl, fun other h => ?_⟩
        obtain ⟨position', rfl, hrest⟩ := hlater other h
        exact hnever position' hrest

end Text

namespace Keywords

variable {w : Whitelist} {q : List Char}

/-- A keyword of the table, which the whitelist has, stands at the position. -/
def Mentions (w : Whitelist) (q : List Char) (m : Mention) : Prop :=
  (w.table? (.text m.table)).isSome ∧
    ∃ words, (m.table, words) ∈ vocabulary ∧ ∃ word ∈ words, Text.OccursAt word.toList q m.position

theorem mem_allowed {table word : String} : (table, word) ∈ allowed w ↔
    (w.table? (.text table)).isSome ∧ ∃ words, (table, words) ∈ vocabulary ∧ word ∈ words := by
  simp only [allowed, List.mem_flatMap, List.mem_filter, List.mem_map, Prod.exists, Prod.mk.injEq]
  constructor
  · rintro ⟨table', words, ⟨hmem, hsome⟩, word', hword, rfl, rfl⟩
    exact ⟨hsome, words, hmem, hword⟩
  · rintro ⟨hsome, words, hmem, hword⟩
    exact ⟨table, words, ⟨hmem, hsome⟩, word, hword, rfl, rfl⟩

theorem table_eq_of_starts : ∀ e ∈ vocabulary, ∀ e' ∈ vocabulary, ∀ word ∈ e.2, ∀ word' ∈ e'.2,
    word.toList <+: word'.toList → e.1 = e'.1 := by
  decide +kernel

theorem Mentions.table_eq {m m' : Mention} (h : Mentions w q m) (h' : Mentions w q m')
    (hposition : m.position = m'.position) : m.table = m'.table := by
  obtain ⟨-, words, hmem, word, hword, before, after, hq, hlength⟩ := h
  obtain ⟨-, words', hmem', word', hword', before', after', hq', hlength'⟩ := h'
  have hsplit : before ++ (word.toList ++ after) = before' ++ (word'.toList ++ after') :=
    hq.symm.trans hq'
  obtain ⟨-, hrest⟩ := List.append_inj hsplit (by omega)
  have hprefix : word.toList <+: word'.toList ++ after' := ⟨after, hrest⟩
  have hprefix' : word'.toList <+: word'.toList ++ after' := ⟨after', rfl⟩
  rcases List.prefix_or_prefix_of_prefix hprefix hprefix' with h | h
  · exact table_eq_of_starts _ hmem _ hmem' _ hword _ hword' h
  · exact (table_eq_of_starts _ hmem' _ hmem _ hword' _ hword h).symm

theorem exists_earlier (best : Option Mention) (m : Mention) :
    ∃ first, earlier best m = some first ∧ first.position ≤ m.position ∧
      ∀ b ∈ best, first.position ≤ b.position := by
  unfold earlier
  cases best with
  | none => exact ⟨m, rfl, le_rfl, by simp⟩
  | some b =>
    dsimp only
    split
    · exact ⟨m, rfl, le_rfl, by rintro _ ⟨⟩; omega⟩
    · exact ⟨b, rfl, by omega, by rintro _ ⟨⟩; exact le_rfl⟩

theorem position_le_of_foldl_earlier {ms : List Mention} {m : Mention} (hm : m ∈ ms) :
    ∃ first, ms.foldl earlier none = some first ∧ first.position ≤ m.position := by
  -- from the right, where the fold takes its last step
  induction ms using List.reverseRecOn with
  | nil => nomatch hm
  | append_singleton ms last ih =>
    rw [List.foldl_append, List.foldl_cons, List.foldl_nil]
    obtain ⟨first, hfirst, hlast, hbest⟩ := exists_earlier (ms.foldl earlier none) last
    refine ⟨first, hfirst, ?_⟩
    rcases List.mem_append.mp hm with hm | hm
    · obtain ⟨best, hfold, hle⟩ := ih hm
      exact (hbest best hfold).trans hle
    · rwa [List.mem_singleton.mp hm]

def mention? (q : List Char) (entry : String × String) : Option Mention :=
  (Text.find? entry.2.toList q).map fun position => ⟨entry.1, position⟩

theorem firstMention_eq (q : List Char) :
    firstMention w q = ((allowed w).filterMap (mention? q)).foldl earlier none := rfl

theorem mentions_of_firstMention {m : Mention} (h : firstMention w q = some m) :
    Mentions w q m := by
  rw [firstMention_eq] at h
  obtain ⟨⟨table, word⟩, hallowed, hm⟩ := List.mem_filterMap.mp (mem_of_foldl_earlier h)
  obtain ⟨position, hfound, rfl⟩ := Option.map_eq_some_iff.mp hm
  obtain ⟨hsome, words, hmem, hword⟩ := mem_allowed.mp hallowed
  refine ⟨hsome, words, hmem, word, hword, ?_⟩
  rcases Text.find?_cases word.toList q with ⟨first, hfirst, hoccurs, -⟩ | ⟨hnone, -⟩
  · rw [hfirst] at hfound
    cases hfound
    exact hoccurs
  · rw [hnone] at hfound
    nomatch hfound

theorem exists_firstMention {m : Mention} (h : Mentions w q m) :
    ∃ first, firstMention w q = some first ∧ first.position ≤ m.position := by
  obtain ⟨hsome, words, hmem, word, hword, hoccurs⟩ := h
  rcases Text.find?_cases word.toList q with ⟨position, hfound, -, hleast⟩ | ⟨-, hnever⟩
  · have hallowed : (m.table, word) ∈ allowed w := mem_allowed.mpr ⟨hsome, words, hmem, hword⟩
    have hmention : mention? q (m.table, word) = some ⟨m.table, position⟩ := by
      rw [mention?, hfound]
      rfl
    obtain ⟨first, hfirst, hle⟩ :=
      position_le_of_foldl_earlier (List.mem_filterMap.mpr ⟨_, hallowed, hmention⟩)
    exact ⟨first, (firstMention_eq q).trans hfirst, hle.trans (hleast _ hoccurs)⟩
  · exact absurd hoccurs (hnever _)

/-- The table that a question is about: the one whose keyword stands leftmost, and only without a
keyword the blogs, or else the first table. -/
inductive IsAbout (w : Whitelist) (q : List Char) (table : String) : Prop where
  | mentioned {position : Nat} (hmention : Mentions w q ⟨table, position⟩)
      (hfirst : ∀ m, Mentions w q m →
        position ≤ m.position ∧ (m.position = position → m.table = table))
  | usual (hnone : ∀ m, ¬Mentions w q m) (hblogs : table = "Blog")
      (hnamed : .text "Blog" ∈ w.tableNames)
  | first (hnone : ∀ m, ¬Mentions w q m) (hblogs : .text "Blog" ∉ w.tableNames)
      (hfirst : w.tableNames.head? = some (.text table))

theorem isAbout_of_table {name : String} (h : table w q = .ok (.text name)) :
    IsAbout w q name := by
  unfold table at h
  split at h
  · rename_i first hfirst
    cases h
    have hmention := mentions_of_firstMention hfirst
    refine .mentioned hmention fun m hm => ?_
    obtain ⟨least, hleast, hle⟩ := exists_firstMention hm
    rw [hfirst] at hleast
    cases hleast
    exact ⟨hle, fun hposition => hm.table_eq hmention hposition⟩
  · rename_i hnone
    have hnever : ∀ m, ¬Mentions w q m := by
      intro m hm
      obtain ⟨first, hfirst, -⟩ := exists_firstMention hm
      rw [hnone] at hfirst
      nomatch hfirst
    unfold usualTable at h
    split at h
    · cases h
      exact .usual hnever rfl (Value.any_same_text.mp ‹_›)
    · rename_i hblog
      have hblog : .text "Blog" ∉ w.tableNames := mt Value.any_same_text.mpr hblog
      cases hnames : w.tableNames with
      | nil =>
        rw [hnames] at h
        nomatch h
      | cons first rest =>
        rw [hnames] at h hblog
        cases h
        exact .first hnever (hnames ▸ hblog) (by rw [hnames]; rfl)

end Keywords

namespace Text

/-- A word of the text with what stands before and behind it: characters of a word only, and none
of them at either end. `inWord` says whether one stands just before the text. -/
structure WordAt (inWord : Bool) (text before word after : List Char) : Prop where
  split : text = before ++ (word ++ after)
  isWord : ∀ c ∈ word, isWord c
  start : (before.getLast?.map Text.isWord).getD inWord = false
  stop : ∀ c ∈ after.head?, ¬Text.isWord c

variable {inWord : Bool} {c : Char} {text before word after : List Char}

theorem getD_isWord_cons :
    (((c :: before).getLast?).map isWord).getD inWord =
      (before.getLast?.map isWord).getD (isWord c) := by
  rw [List.getLast?_cons]
  cases before.getLast? <;> rfl

/-- A word that does not start with the text is a word of what follows the first character. -/
theorem wordAt_cons :
    WordAt inWord (c :: text) (c :: before) word after ↔
      WordAt (Text.isWord c) text before word after := by
  constructor
  · rintro ⟨hsplit, hword, hstart, hstop⟩
    exact ⟨(List.cons.inj hsplit).2, hword, getD_isWord_cons ▸ hstart, hstop⟩
  · rintro ⟨rfl, hword, hstart, hstop⟩
    exact ⟨rfl, hword, getD_isWord_cons.trans hstart, hstop⟩

end Text

namespace Keywords

def IsShortNumber (word : List Char) : Prop :=
  1 ≤ word.length ∧ word.length ≤ 4 ∧ ∀ c ∈ word, Text.isDigit c

def numberOf (word : List Char) : Nat := Numeral.ofDigits (word.filterMap Text.digitValue?)

theorem numberHere?_eq_some {cs : List Char} {n : Nat} :
    numberHere? cs = some n ↔ ∃ word after, Text.WordAt false cs [] word after ∧
      IsShortNumber word ∧ n = numberOf word := by
  unfold numberHere?
  dsimp only
  constructor
  · intro h
    split at h
    · rename_i hshort
      obtain ⟨hpos, hle, hstop⟩ := hshort
      have hdigits : ∀ c ∈ cs.takeWhile Text.isDigit, Text.isDigit c :=
        fun c hc => List.mem_takeWhile_imp hc
      have hsplit : cs = cs.takeWhile Text.isDigit ++ cs.dropWhile Text.isDigit :=
        List.takeWhile_append_dropWhile.symm
      have hdrop : cs.drop (cs.takeWhile Text.isDigit).length = cs.dropWhile Text.isDigit :=
        (congrArg (List.drop _) hsplit).trans List.drop_left
      rw [hdrop] at hstop
      refine ⟨cs.takeWhile Text.isDigit, cs.dropWhile Text.isDigit,
        ⟨hsplit, fun c hc => Text.isWord_of_isDigit (hdigits c hc), rfl, ?_⟩,
        ⟨hpos, hle, hdigits⟩, (Option.some.inj h).symm⟩
      intro c hc
      rw [Option.mem_def.mp hc] at hstop
      simpa using hstop
    · nomatch h
  · rintro ⟨word, after, ⟨rfl, -, -, hstop⟩, ⟨hpos, hle, hdigits⟩, rfl⟩
    -- Digits are characters of words, so the run of digits ends with the word.
    have hafter : after.takeWhile Text.isDigit = [] := by
      cases after with
      | nil => rfl
      | cons c rest =>
        exact List.takeWhile_cons_of_neg fun hc => hstop c rfl (Text.isWord_of_isDigit hc)
    have htake : (word ++ after).takeWhile Text.isDigit = word := by
      rw [List.takeWhile_append_of_pos hdigits, hafter, List.append_nil]
    have hend : after.head?.all (!Text.isWord ·) := by
      cases hhead : after.head? with
      | none => rfl
      | some c => simpa using hstop c hhead
    rw [List.nil_append, htake, List.drop_left, if_pos ⟨hpos, hle, hend⟩]
    rfl

/-- What the leftmost of the words that are short numbers writes, if there is one. -/
inductive NamesLimit (inWord : Bool) (q : List Char) : Option Nat → Prop where
  | named {before word after : List Char} (hword : Text.WordAt inWord q before word after)
      (hshort : IsShortNumber word)
      (hfirst : ∀ before' word' after', Text.WordAt inWord q before' word' after' →
        IsShortNumber word' → before.length ≤ before'.length) :
      NamesLimit inWord q (some (numberOf word))
  | unnamed (hnone : ∀ before word after, Text.WordAt inWord q before word after →
      ¬IsShortNumber word) : NamesLimit inWord q none

theorem NamesLimit.cons {inWord : Bool} {c : Char} {q : List Char} {limit : Option Nat}
    (h : NamesLimit (Text.isWord c) q limit)
    (hfront : ∀ word after, Text.WordAt inWord (c :: q) [] word after → ¬IsShortNumber word) :
    NamesLimit inWord (c :: q) limit := by
  have hlater : ∀ before word after, Text.WordAt inWord (c :: q) before word after →
      IsShortNumber word →
        ∃ tail, before = c :: tail ∧ Text.WordAt (Text.isWord c) q tail word after := by
    intro before word after hword hshort
    cases before with
    | nil => exact absurd hshort (hfront word after hword)
    | cons d tail =>
      obtain rfl : c = d := (List.cons.inj hword.split).1
      exact ⟨tail, rfl, Text.wordAt_cons.mp hword⟩
  cases h with
  | @named before word after hword hshort hfirst =>
    refine .named (Text.wordAt_cons.mpr hword) hshort fun before' word' after' hword' hshort' => ?_
    obtain ⟨tail, rfl, htail⟩ := hlater before' word' after' hword' hshort'
    exact Nat.succ_le_succ (hfirst tail word' after' htail hshort')
  | unnamed hnone =>
    refine .unnamed fun before' word' after' hword' hshort' => ?_
    obtain ⟨tail, -, htail⟩ := hlater before' word' after' hword' hshort'
    exact hnone tail word' after' htail hshort'

theorem namesLimit_limitFrom (inWord : Bool) (q : List Char) :
    NamesLimit inWord q (limitFrom inWord q) := by
  induction q generalizing inWord with
  | nil =>
    refine .unnamed fun before word after hword hshort => ?_
    have hempty : word = [] := by
      have hlength := congrArg List.length hword.split
      simp only [List.length_nil, List.length_append] at hlength
      exact List.eq_nil_of_length_eq_zero (by omega)
    rw [hempty] at hshort
    exact absurd hshort.1 (by decide)
  | cons c rest ih =>
    have hfront : ∀ n, (if inWord then none else numberHere? (c :: rest)) = some n ↔
        ∃ word after, Text.WordAt inWord (c :: rest) [] word after ∧ IsShortNumber word ∧
          n = numberOf word := by
      intro n
      cases inWord with
      | false => exact numberHere?_eq_some
      | true => exact ⟨nofun, fun ⟨_, _, hword, _⟩ => nomatch hword.start⟩
    unfold limitFrom
    split
    · rename_i n hn
      obtain ⟨word, after, hword, hshort, rfl⟩ := (hfront n).mp hn
      exact .named hword hshort fun _ _ _ _ _ => Nat.zero_le _
    · rename_i hnone
      refine (ih (Text.isWord c)).cons fun word after hword hshort => ?_
      have hsome := (hfront _).mpr ⟨word, after, hword, hshort, rfl⟩
      rw [hnone] at hsome
      nomatch hsome

end Keywords

namespace Question

variable {w : Whitelist}

/-- Without a model a question comes back as the spec of the table whose keyword stands leftmost in
it, limited by the leftmost short number. -/
theorem rawSpec_leftmost (hw : w.Textual) (hne : w.tables ≠ []) (question : String) :
    ∃ raw table limit, Keywords.spec w question = .ok raw ∧
      (∀ s network, rawSpec s w network (some Provider.mock.name) question = .ok raw) ∧
      raw.member? "table" = some (.text table) ∧
      Keywords.IsAbout w (Keywords.folded question) table ∧
      raw.member? "limit" = limit.map (fun n : Nat => .int n) ∧
      Keywords.NamesLimit false (Keywords.folded question) limit := by
  obtain ⟨table, htable, -⟩ := Keywords.exists_table hw hne (Keywords.folded question)
  obtain ⟨fs, hspec, hkept⟩ := Keywords.exists_spec_of_table htable
  -- of the thousand levels that the reader follows, the spec, its filters and each one take three
  have hplain : Json.Plain Json.nestingLimit
      (Keywords.written table fs (Keywords.limit? (Keywords.folded question))) :=
    Keywords.plain_written hkept _ 997
  have hlimit : (Keywords.written table fs (Keywords.limit? (Keywords.folded question))).member?
      "limit" = (Keywords.limit? (Keywords.folded question)).map fun n : Nat => .int n := by
    cases Keywords.limit? (Keywords.folded question) <;> rfl
  exact ⟨_, table, _, hspec, rawSpec_eq_written hspec hplain, rfl,
    Keywords.isAbout_of_table htable, hlimit, Keywords.namesLimit_limitFrom false _⟩

theorem rawSpec_leftmost_standard :
    Whitelist.standard.Textual ∧ Whitelist.standard.tables ≠ [] ∧
      ∃ raw table limit, Keywords.spec Whitelist.standard "Top 5 posts by members" = .ok raw ∧
        (∀ s network, rawSpec s Whitelist.standard network (some Provider.mock.name)
          "Top 5 posts by members" = .ok raw) ∧
        raw.member? "table" = some (.text table) ∧
        Keywords.IsAbout Whitelist.standard (Keywords.folded "Top 5 posts by members") table ∧
        raw.member? "limit" = limit.map (fun n : Nat => .int n) ∧
        Keywords.NamesLimit false (Keywords.folded "Top 5 posts by members") limit :=
  ⟨Whitelist.textual_standard, List.cons_ne_nil _ _,
    rawSpec_leftmost Whitelist.textual_standard (List.cons_ne_nil _ _) _⟩

end Question

end QueryGate
