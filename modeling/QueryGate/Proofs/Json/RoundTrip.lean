import QueryGate.Proofs.Assoc
import QueryGate.Proofs.Json.Literal
import QueryGate.Proofs.Json.Object

/-!
# Documents that are written and read again

A value of texts, whole numbers, booleans, nulls, lists and objects is read back from its own
document, unless it is nested too deeply, holds a number with too many digits or a key twice. The
induction is on the depth, as the reader recurs on it; lists and objects are both rows of items
between two characters. Main statement: `read_write`.
-/

set_option autoImplicit false

namespace QueryGate.Json

theorem exists_intercalate {α : Type} (comma : List Char) {shown : α → List Char} {v : α} {c : Char}
    {more : List Char} (hv : shown v = c :: more) (vs : List α) :
    ∃ more, comma.intercalate ((v :: vs).map shown) = c :: more := by
  cases vs with
  | nil =>
    rw [List.map_singleton, List.intercalate_singleton]
    exact ⟨more, hv⟩
  | cons w ws =>
    rw [List.map_cons, List.map_cons, List.intercalate_cons_cons, hv]
    exact ⟨_, rfl⟩

section Rows

variable {α : Type} {closer : Char} {item : List Char → Reading α}
  {series : Nat → List Char → Reading (List α)} (hseries : IsSeries closer item series)
  (hcloser : isBlank closer = false ∧ ∀ rest, EndsNumber (closer :: rest))
  {comma : List Char} (hcomma : ∃ blanks, comma = ',' :: blanks ∧ ∀ b ∈ blanks, isBlank b)
  {shown : α → List Char} {vs : List α}
  (hfirst : ∀ v ∈ vs, ∃ c more, shown v = c :: more ∧ isBlank c = false ∧ c ≠ closer)
  (hshown : ∀ v ∈ vs, ∀ rest, EndsNumber rest → item (shown v ++ rest) = .ok (v, rest))
include hseries hcloser hcomma hfirst hshown

theorem series_intercalate (hne : vs ≠ []) {fuel : Nat}
    (hfuel : (comma.intercalate (vs.map shown)).length < fuel) (rest : List Char) :
    series fuel (comma.intercalate (vs.map shown) ++ closer :: rest) = .ok (vs, rest) := by
  obtain ⟨blanks, rfl, hblanks⟩ := hcomma
  -- each item uses up one unit of fuel, and the comma before the next one pays for it
  induction vs generalizing fuel with
  | nil => exact absurd rfl hne
  | cons v vs ih =>
    obtain ⟨fuel, rfl⟩ : ∃ n, fuel = n + 1 := ⟨fuel - 1, by omega⟩
    obtain ⟨-, hfirsts⟩ := List.forall_mem_cons.mp hfirst
    obtain ⟨hv, hvs⟩ := List.forall_mem_cons.mp hshown
    cases vs with
    | nil =>
      rw [List.map_singleton, List.intercalate_singleton]
      exact (hseries.2 _ _ _ _).mpr ⟨v, _, hv _ (hcloser.2 rest),
        .inl ⟨skipBlanks_cons hcloser.1 rest, rfl⟩⟩
    | cons w ws =>
      obtain ⟨c, more, hc, hblank, -⟩ := hfirsts w List.mem_cons_self
      rw [List.map_cons, List.map_cons, List.intercalate_cons_cons, ← List.map_cons] at hfuel ⊢
      simp only [List.length_append, List.length_cons] at hfuel
      have hshorter : ((',' :: blanks).intercalate ((w :: ws).map shown)).length < fuel := by omega
      have hnext := ih hfirsts hvs (List.cons_ne_nil w ws) hshorter
      obtain ⟨more, hstart⟩ := exists_intercalate (',' :: blanks) hc ws
      have hskip : skipBlanks (blanks ++
          ((',' :: blanks).intercalate ((w :: ws).map shown) ++ closer :: rest)) =
          (',' :: blanks).intercalate ((w :: ws).map shown) ++ closer :: rest := by
        rw [skipBlanks_append hblanks, hstart, List.cons_append, skipBlanks_cons hblank]
      have hitem := hv (',' :: (blanks ++
        ((',' :: blanks).intercalate ((w :: ws).map shown) ++ closer :: rest)))
        (endsNumber_cons (by decide) (by decide) _)
      simp only [List.append_assoc, List.cons_append]
      refine (hseries.2 _ _ _ _).mpr
        ⟨v, _, hitem, .inr ⟨_, w :: ws, skipBlanks_cons (by decide) _, ?_, rfl⟩⟩
      rw [hskip]
      exact hnext

theorem enclosed_intercalate (rest : List Char) :
    enclosed closer series (comma.intercalate (vs.map shown) ++ closer :: rest) =
      .ok (vs, rest) := by
  cases vs with
  | nil =>
    have hempty : comma.intercalate (([] : List α).map shown) ++ closer :: rest =
        closer :: rest := rfl
    rw [hempty, enclosed, skipBlanks_cons hcloser.1]
    exact if_pos rfl
  | cons v vs =>
    have hfuel : (comma.intercalate ((v :: vs).map shown)).length <
        (comma.intercalate ((v :: vs).map shown) ++ closer :: rest).length + 1 := by
      rw [List.length_append]
      omega
    have hread := series_intercalate hseries hcloser hcomma hfirst hshown (List.cons_ne_nil v vs)
      hfuel rest
    obtain ⟨c, more, hc, hblank, hne⟩ := hfirst v List.mem_cons_self
    obtain ⟨more, hstart⟩ := exists_intercalate comma hc vs
    rw [hstart, List.cons_append] at hread ⊢
    rw [enclosed, skipBlanks_cons hblank]
    dsimp only
    rw [if_neg hne]
    exact hread

end Rows

/-- A value that a document gives back as it is: no floats, days and timestamps, no number with too
many digits, no key twice, and at most so many lists and objects around each other. -/
def Plain : Nat → Value → Prop
  | _, .null | _, .bool _ | _, .text _ => True
  | _, .int n => (decimals n).length ≤ maxWholeDigits
  | depth + 1, .list items => ∀ v ∈ items, Plain depth v
  | depth + 1, .object members =>
    (Assoc.keys members).Nodup ∧ ∀ m ∈ members, Plain depth m.2
  | _, _ => False

/-- The layout has nothing but a comma and a colon, and white space behind them. -/
structure Readable (layout : JsonLayout) : Prop where
  comma : ∃ blanks, layout.comma.toList = ',' :: blanks ∧ ∀ b ∈ blanks, isBlank b
  colon : ∃ blanks, layout.colon.toList = ':' :: blanks ∧ ∀ b ∈ blanks, isBlank b

theorem readable_spaced : Readable .spaced where
  comma := ⟨[' '], rfl, List.forall_mem_singleton.mpr rfl⟩
  colon := ⟨[' '], rfl, List.forall_mem_singleton.mpr rfl⟩

def writeMember (layout : JsonLayout) (m : String × Value) : String :=
  literal m.1 ++ layout.colon ++ write layout m.2

theorem writeItems_eq (layout : JsonLayout) (items : List Value) :
    writeItems layout items = items.map (write layout) := by
  induction items with
  | nil => rfl
  | cons v items ih => rw [writeItems, ih, List.map_cons]

theorem writeMembers_eq (layout : JsonLayout) (members : List (String × Value)) :
    writeMembers layout members = members.map (writeMember layout) := by
  induction members with
  | nil => rfl
  | cons m members ih =>
    obtain ⟨k, v⟩ := m
    rw [writeMembers, ih, List.map_cons]
    rfl

theorem toList_write_list (layout : JsonLayout) (items : List Value) :
    (write layout (.list items)).toList =
      '[' :: (layout.comma.toList.intercalate (items.map fun v => (write layout v).toList) ++
        [']']) := by
  rw [write, writeItems_eq, String.toList_append, String.toList_append, String.toList_intercalate,
    List.map_map]
  rfl

theorem toList_write_object (layout : JsonLayout) (members : List (String × Value)) :
    (write layout (.object members)).toList =
      '{' :: (layout.comma.toList.intercalate
        (members.map fun m => (writeMember layout m).toList) ++ ['}']) := by
  rw [write, writeMembers_eq, String.toList_append, String.toList_append,
    String.toList_intercalate, List.map_map]
  rfl

theorem toList_writeMember (layout : JsonLayout) (m : String × Value) :
    (writeMember layout m).toList =
      '"' :: (m.1.toList.flatMap escapeChar ++ '"' ::
        (layout.colon.toList ++ (write layout m.2).toList)) := by
  rw [writeMember, String.toList_append, String.toList_append, toList_literal]
  simp

section Writing

variable {layout : JsonLayout}

/-- A character that a document may start with: no white space, not what closes a list, not the
byte order mark. -/
def Opens (c : Char) : Prop := isBlank c = false ∧ c ≠ ']' ∧ c ≠ byteOrderMark

instance : DecidablePred Opens := fun _ => inferInstanceAs (Decidable (_ ∧ _))

theorem opens_of_isDigit {c : Char} (h : c.isDigit) : Opens c := by
  refine ⟨?_, ?_, ?_⟩
  · by_contra hblank
    simp only [isBlank, Bool.not_eq_false, Bool.or_eq_true, beq_iff_eq] at hblank
    rcases hblank with ((rfl | rfl) | rfl) | rfl <;> nomatch h
  · rintro rfl
    nomatch h
  · rintro rfl
    nomatch h

theorem exists_write (layout : JsonLayout) {depth : Nat} {v : Value} (h : Plain depth v) :
    ∃ c more, (write layout v).toList = c :: more ∧ Opens c := by
  cases v with
  | null => exact ⟨'n', "ull".toList, by simp [write], by decide⟩
  | bool b =>
    cases b with
    | false => exact ⟨'f', "alse".toList, by simp [write], by decide⟩
    | true => exact ⟨'t', "rue".toList, by simp [write], by decide⟩
  | int n =>
    obtain ⟨c, cs, hdigits, hc⟩ := exists_decimals n
    rw [write, toList_toString, hdigits]
    split
    · exact ⟨_, _, rfl, by decide⟩
    · exact ⟨c, cs, rfl, opens_of_isDigit hc⟩
  | text s => exact ⟨_, _, toList_literal s, by decide⟩
  | list items => exact ⟨_, _, toList_write_list layout items, by decide⟩
  | object members => exact ⟨_, _, toList_write_object layout members, by decide⟩
  | float _ | moment _ | day _ => cases depth <;> exact absurd h (by simp [Plain])

theorem readValue_word (word : List Char) {v : Value} (hword : (word, v) ∈ words.take 3)
    (depth : Nat) (rest : List Char) : readValue depth (word ++ rest) = .ok (v, rest) := by
  simp only [words, List.take_succ_cons, List.take_zero, List.mem_cons, List.not_mem_nil, or_false,
    Prod.mk.injEq] at hword
  rcases hword with ⟨rfl, rfl⟩ | ⟨rfl, rfl⟩ | ⟨rfl, rfl⟩ <;>
    exact readValue_atom (by simp) (by simp) (by simp) depth

theorem readValue_write_flat {depth : Nat} {v : Value} (h : Plain depth v) {rest : List Char}
    (hrest : EndsNumber rest) (hlist : ∀ items, v ≠ .list items)
    (hobject : ∀ members, v ≠ .object members) :
    readValue depth ((write layout v).toList ++ rest) = .ok (v, rest) := by
  cases v with
  | null => simpa [write] using readValue_word "null".toList (by simp [words]) depth rest
  | bool b =>
    cases b with
    | false =>
      simpa [write] using readValue_word "false".toList (by simp [words]) depth rest
    | true =>
      simpa [write] using readValue_word "true".toList (by simp [words]) depth rest
  | int n =>
    have hlength : (decimals n).length ≤ maxWholeDigits := by
      cases depth <;> exact h
    have hstarts := startsNumber_toString n rest
    rw [write, readValue_atom (ne_of_startsNumber hstarts fun _ => rfl)
      (ne_of_startsNumber hstarts fun _ => rfl) (ne_of_startsNumber hstarts fun _ => rfl),
      readAtom_of_startsNumber hstarts, readNumber_toString hlength hrest]
  | text s =>
    rw [write, toList_literal, List.cons_append, List.append_assoc, List.singleton_append,
      readValue_string, readString_literal]
    rfl
  | list items => exact absurd rfl (hlist items)
  | object members => exact absurd rfl (hobject members)
  | float _ | moment _ | day _ => cases depth <;> exact absurd h (by simp [Plain])

variable (hlayout : Readable layout)
include hlayout

theorem readMember_writeMember {item : List Char → Reading Value} {depth : Nat}
    {m : String × Value} (h : Plain depth m.2) {rest : List Char}
    (hitem : item ((write layout m.2).toList ++ rest) = .ok (m.2, rest)) :
    readMember item ((writeMember layout m).toList ++ rest) = .ok (m, rest) := by
  obtain ⟨blanks, hcolon, hblanks⟩ := hlayout.colon
  obtain ⟨c, more, hwrite, hc, -⟩ := exists_write layout h
  have hskip : skipBlanks (blanks ++ ((write layout m.2).toList ++ rest)) =
      (write layout m.2).toList ++ rest := by
    rw [skipBlanks_append hblanks, hwrite, List.cons_append, skipBlanks_cons hc]
  refine readMember_eq_ok.mpr ⟨_, _, blanks ++ ((write layout m.2).toList ++ rest), ?_,
    readString_literal m.1 (layout.colon.toList ++ (write layout m.2).toList ++ rest), ?_, ?_⟩
  · rw [toList_writeMember]
    simp
  · rw [hcolon]
    simp only [List.cons_append, List.append_assoc]
    exact skipBlanks_cons (by decide) _
  · rw [hskip]
    exact hitem

theorem readValue_write_list {depth : Nat} {items : List Value} (h : ∀ v ∈ items, Plain depth v)
    (hread : ∀ v ∈ items, ∀ rest, EndsNumber rest →
      readValue depth ((write layout v).toList ++ rest) = .ok (v, rest)) (rest : List Char) :
    readValue (depth + 1) ((write layout (.list items)).toList ++ rest) =
      .ok (.list items, rest) := by
  have hfirst : ∀ v ∈ items, ∃ c more, (write layout v).toList = c :: more ∧
      isBlank c = false ∧ c ≠ ']' := by
    intro v hv
    obtain ⟨c, more, hwrite, hblank, hcloser, -⟩ := exists_write layout (h v hv)
    exact ⟨c, more, hwrite, hblank, hcloser⟩
  have hrow := enclosed_intercalate (isSeries_readItems (readValue depth))
    ⟨by decide, endsNumber_cons (by decide) (by decide)⟩ hlayout.comma hfirst hread rest
  rw [toList_write_list, List.cons_append, List.append_assoc, List.singleton_append,
    readValue_list, hrow]
  rfl

theorem readValue_write_object {depth : Nat} {members : List (String × Value)}
    (hkeys : (Assoc.keys members).Nodup) (h : ∀ m ∈ members, Plain depth m.2)
    (hread : ∀ m ∈ members, ∀ rest, EndsNumber rest →
      readValue depth ((write layout m.2).toList ++ rest) = .ok (m.2, rest)) (rest : List Char) :
    readValue (depth + 1) ((write layout (.object members)).toList ++ rest) =
      .ok (.object members, rest) := by
  have hfirst : ∀ m ∈ members, ∃ c more, (writeMember layout m).toList = c :: more ∧
      isBlank c = false ∧ c ≠ '}' :=
    fun m _ => ⟨_, _, toList_writeMember layout m, by decide, by decide⟩
  have hrow := enclosed_intercalate (isSeries_readMembers (readValue depth))
    ⟨by decide, endsNumber_cons (by decide) (by decide)⟩ hlayout.comma hfirst
    (fun m hm rest hrest => readMember_writeMember hlayout (h m hm) (hread m hm rest hrest)) rest
  rw [toList_write_object, List.cons_append, List.append_assoc, List.singleton_append,
    readValue_object, hrow]
  -- the reader joins equal keys, so the members come back as they were only without any
  simp [Except.map, Assoc.ofPairs_of_nodup hkeys]

theorem readValue_write {depth : Nat} {v : Value} (h : Plain depth v) {rest : List Char}
    (hrest : EndsNumber rest) :
    readValue depth ((write layout v).toList ++ rest) = .ok (v, rest) := by
  induction depth generalizing v rest with
  | zero =>
    cases v with
    | list _ | object _ => nomatch h
    | _ => exact readValue_write_flat h hrest (by simp) (by simp)
  | succ depth ih =>
    cases v with
    | list items =>
      exact readValue_write_list hlayout h (fun v hv rest hrest => ih (h v hv) hrest) rest
    | object members =>
      exact readValue_write_object hlayout h.1 h.2 (fun m hm rest hrest => ih (h.2 m hm) hrest) rest
    | _ => exact readValue_write_flat h hrest (by simp) (by simp)

theorem read_write {v : Value} (h : Plain nestingLimit v) : read (write layout v) = .ok v := by
  obtain ⟨c, more, hwrite, hblank, -, hmark⟩ := exists_write layout h
  have hvalue := readValue_write hlayout h endsNumber_nil
  rw [List.append_nil, hwrite] at hvalue
  rw [← String.ofList_toList (s := write layout v), read_eq_ok, hwrite]
  refine ⟨by simpa using hmark, readAll_eq_ok.mpr ⟨[], ?_, rfl⟩⟩
  rw [skipBlanks_cons hblank]
  exact hvalue

end Writing

end QueryGate.Json
