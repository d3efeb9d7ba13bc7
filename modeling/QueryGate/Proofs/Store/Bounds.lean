import QueryGate.Pipeline
import QueryGate.Proofs.Query.Execute
import QueryGate.Store.Bounds

/-!
# Within the bounds of the store

A selection whose statement the store bears, and whose look-ups miss no row, has the rows that its
conditions ask for. Main statement: `Select.runBounded_eq_run`. Databases that answer in this way
are those that keep their bounds (`Database.KeepsBounds`).
-/

set_option autoImplicit false

namespace QueryGate

/-- In a column of the kind, the value is a real number that equals the least integer. -/
def Scalar.isBlurred (kind : ColumnKind) (v : Scalar) : Bool :=
  Comparison.equal.test kind least v && (v.forColumn kind).isReal

/-- A look-up by the clause may miss the row: the key is the least integer, and among the values is
a real number equal to it. -/
def BoundClause.mayMiss (joinsAuthor : Bool) (m : Match) (b : BoundClause) : Bool :=
  (b.wanted? (·.isKey joinsAuthor)).any fun l =>
    m.scalar l.1 == .least && l.2.any (·.isBlurred l.1.column.kind)

/-- The store bears the statement of the selection and the values that it hands over, and no look-up
by one of these may miss a row. -/
structure Select.Within (s : Select) (store : Store) : Prop where
  parameters : (Sql.selectText .sqlite s).params.length ≤ 32766
  depth : s.depth ≤ 1000
  columns : s.labels.length ≤ 2000
  texts : ∀ bounds, s.handOver s.prepare = .ok bounds → ∀ b ∈ bounds,
    ¬b.isTooLarge ∧ ¬b.isTooLong
  keys : ∀ bounds, s.handOver s.prepare = .ok bounds → ∀ b ∈ bounds,
    ∀ m ∈ store.candidates s.joinsAuthor, ¬b.mayMiss s.joinsAuthor m

theorem Select.within_of_handOver {s : Select} {store : Store} {bounds : List BoundClause}
    (hbounds : s.handOver s.prepare = .ok bounds)
    (hsizes : (Sql.selectText .sqlite s).params.length ≤ 32766 ∧ s.depth ≤ 1000 ∧
      s.labels.length ≤ 2000)
    (hborne : ∀ b ∈ bounds, (¬b.isTooLarge ∧ ¬b.isTooLong) ∧
      ∀ m ∈ store.candidates s.joinsAuthor, ¬b.mayMiss s.joinsAuthor m) : s.Within store := by
  refine ⟨hsizes.1, hsizes.2.1, hsizes.2.2, ?_, ?_⟩
  · intro bounds' h b hb
    obtain rfl := Except.ok.inj (hbounds.symm.trans h)
    exact (hborne b hb).1
  · intro bounds' h b hb
    obtain rfl := Except.ok.inj (hbounds.symm.trans h)
    exact (hborne b hb).2

namespace BoundClause

theorem wanted?_mono {isSuch isSuch' : ColumnRef → Bool} (h : ∀ c, isSuch c → isSuch' c)
    {b : BoundClause} {l : Lookup} (hb : b.wanted? isSuch = some l) :
    b.wanted? isSuch' = some l := by
  cases b with
  | never | like c pattern => nomatch hb
  | compare c comparison v =>
    cases comparison with
    | equal =>
      obtain ⟨hc, hl⟩ := Option.ite_none_right_eq_some.mp hb
      exact (if_pos (h c hc)).trans hl
    | _ => nomatch hb
  | oneOf c vs =>
    obtain ⟨hc, hl⟩ := Option.ite_none_right_eq_some.mp hb
    exact (if_pos (h c hc)).trans hl

theorem holds_of_wanted? {isSuch : ColumnRef → Bool} {b : BoundClause} {l : Lookup}
    (hb : b.wanted? isSuch = some l) (m : Match) :
    b.holds m = l.2.any fun v => Comparison.equal.test l.1.column.kind (m.scalar l.1) v := by
  cases b with
  | never | like c pattern => nomatch hb
  | compare c comparison v =>
    cases comparison with
    | equal =>
      obtain ⟨-, hl⟩ := Option.ite_none_right_eq_some.mp hb
      cases hl
      exact (Bool.or_false _).symm
    | _ => nomatch hb
  | oneOf c vs =>
    obtain ⟨-, hl⟩ := Option.ite_none_right_eq_some.mp hb
    cases hl
    rfl

end BoundClause

/-- A look-up finds a key that equals a value, unless the key is the least integer and a value is a
real number. -/
theorem Scalar.oneFinds_of_any {kind : ColumnKind} {vs : List Scalar} {key : Scalar}
    (h : vs.any fun v => Comparison.equal.test kind key v)
    (hkey : ¬(key == least && vs.any (·.isBlurred kind))) : oneFinds kind vs key := by
  have hsome : (vs.reverse.find? fun v => Comparison.equal.test kind key v).isSome := by
    rw [List.find?_isSome]
    simpa using h
  obtain ⟨v, hv⟩ := Option.isSome_iff_exists.mp hsome
  have hmem : v ∈ vs := List.mem_reverse.mp (List.mem_of_find?_eq_some hv)
  have htest : Comparison.equal.test kind key v := by simpa using List.find?_some hv
  rw [oneFinds, hv, Option.any_some, finds, htest, Bool.true_and, Bool.not_eq_true',
    ← Bool.not_eq_true, Bool.and_eq_true]
  -- The value that is kept is one of the list, so the list as a whole is blurred.
  rintro ⟨hleast, hreal⟩
  apply hkey
  rw [beq_iff_eq] at hleast
  rw [hleast] at htest
  have hblurred : v.isBlurred kind := by rw [isBlurred, htest, hreal]; rfl
  simpa [hleast] using ⟨v, hmem, hblurred⟩

namespace Lookup

theorem mem_of_foldl_shorter {ls : List Lookup} {x : Option Lookup} {l : Lookup}
    (h : ls.foldl shorter x = some l) : x = some l ∨ l ∈ ls := by
  induction ls generalizing x with
  | nil => exact .inl h
  | cons y ls ih =>
    rcases ih h with hnext | hmem
    · cases x with
      | none =>
        cases hnext
        exact .inr List.mem_cons_self
      | some x =>
        rw [shorter] at hnext
        split at hnext
        · cases hnext
          exact .inr List.mem_cons_self
        · exact .inl hnext
    · exact .inr (List.mem_cons_of_mem y hmem)

theorem exists_of_shortest {columns : List (ColumnRef → Bool)} {bounds : List BoundClause}
    {l : Lookup} (h : shortest columns bounds = some l) :
    ∃ isSuch ∈ columns, ∃ b ∈ bounds, b.wanted? isSuch = some l := by
  rcases mem_of_foldl_shorter h with hnone | hmem
  · nomatch hnone
  · obtain ⟨isSuch, hcolumn, hl⟩ := List.mem_flatMap.mp hmem
    obtain ⟨b, hb, hl⟩ := List.mem_filterMap.mp hl
    exact ⟨isSuch, hcolumn, b, hb, hl⟩

end Lookup

namespace Select

variable {s : Select} {store : Store} {bounds : List BoundClause} {m : Match}

theorem exists_of_mem_lookups {l : Lookup} (h : l ∈ s.lookups bounds) :
    ∃ b ∈ bounds, b.wanted? (·.isKey s.joinsAuthor) = some l := by
  -- Only the wider notion of a key is left, the column that a look-up is found in does not matter.
  rcases List.mem_append.mp h with hblog | hauthor
  · obtain ⟨isSuch, hcolumn, b, hb, hl⟩ := Lookup.exists_of_shortest (Option.mem_toList.mp hblog)
    rw [List.mem_singleton.mp hcolumn] at hl
    refine ⟨b, hb, BoundClause.wanted?_mono ?_ hl⟩
    intro c hc
    rw [ColumnRef.isKey, hc, Bool.true_or]
  · split at hauthor
    · rename_i hjoins
      have hfound := (Option.filter_eq_some_iff.mp (Option.mem_toList.mp hauthor)).1
      obtain ⟨isSuch, hcolumn, b, hb, hl⟩ := Lookup.exists_of_shortest hfound
      refine ⟨b, hb, BoundClause.wanted?_mono ?_ hl⟩
      intro c hc
      rw [ColumnRef.isKey, hjoins, Bool.true_and]
      rcases List.mem_pair.mp hcolumn with rfl | rfl
      · rw [hc, Bool.true_or, Bool.or_true]
      · rw [hc, Bool.or_true, Bool.or_true]
    · nomatch hauthor

theorem mem_of_mem_keyBounds {b : BoundClause} (h : b ∈ keyBounds bounds) : b ∈ bounds := by
  unfold keyBounds at h
  split at h
  · nomatch h
  · rcases List.mem_append.mp h with habove | hbelow
    · exact List.mem_of_find?_eq_some (Option.mem_toList.mp habove)
    · exact List.mem_of_find?_eq_some (Option.mem_toList.mp hbelow)

theorem isTried_of_passes (hholds : bounds.all (·.holds m))
    (hkeys : ∀ b ∈ bounds, ¬b.mayMiss s.joinsAuthor m) :
    (s.lookups bounds).all (·.finds m) && (keyBounds bounds).all (·.holds m) := by
  rw [List.all_eq_true] at hholds
  rw [Bool.and_eq_true, List.all_eq_true, List.all_eq_true]
  constructor
  · intro l hl
    obtain ⟨b, hb, hwanted⟩ := exists_of_mem_lookups hl
    have hany := (BoundClause.holds_of_wanted? hwanted m).symm.trans (hholds b hb)
    refine Scalar.oneFinds_of_any hany ?_
    have hkey := hkeys b hb
    rwa [BoundClause.mayMiss, hwanted, Option.any_some] at hkey
  · intro b hb
    exact hholds b (mem_of_mem_keyBounds hb)

theorem passes_eq_ok (h : ∀ b ∈ bounds, ¬b.isTooLong) (m : Match) :
    passes m bounds = .ok (bounds.all (·.holds m)) := by
  induction bounds with
  | nil => rfl
  | cons b rest ih =>
    obtain ⟨hb, hrest⟩ := List.forall_mem_cons.mp h
    have hbounded : b.holdsBounded m = .ok (b.holds m) := if_neg hb
    rw [passes, hbounded, Attempt.ok_bind, ih hrest, List.all_cons]
    cases b.holds m <;> rfl

theorem passing_eq_ok (h : ∀ b ∈ bounds, ¬b.isTooLong) (ms : List Match) :
    passing bounds ms = .ok (ms.filter fun m => bounds.all (·.holds m)) := by
  induction ms with
  | nil => rfl
  | cons m rest ih =>
    rw [passing, passes_eq_ok h, ih, List.filter_cons]
    rfl

/-- The matches that are tried and pass. -/
def found (s : Select) (bounds : List BoundClause) (store : Store) : List Match :=
  (s.visited bounds store).filter fun m => bounds.all (·.holds m)

theorem runBounded_eq_answer (hbounds : s.handOver s.prepareBounded = .ok bounds)
    (htexts : ∀ b ∈ bounds, ¬b.isTooLarge ∧ ¬b.isTooLong) : s.runBounded store =
      s.answer (cut s.limit ((s.found bounds store).mergeSort fun a b =>
        a.blog.comesFirst b.blog)) := by
  have hsizes : bounds.any BoundClause.isTooLarge = false :=
    List.any_eq_false.mpr fun b hb => (htexts b hb).1
  rw [runBounded, hbounds, Attempt.ok_bind, checkTexts, hsizes, if_neg Bool.false_ne_true,
    Attempt.ok_bind, passing_eq_ok fun b hb => (htexts b hb).2, Attempt.ok_bind, found]

theorem runBounded_of_found (hbounds : s.handOver s.prepareBounded = .ok bounds)
    (htexts : ∀ b ∈ bounds, ¬b.isTooLarge ∧ ¬b.isTooLong) (hlimit : 1 ≤ s.limit)
    {found : Option Match} (hfound : s.found bounds store = found.toList) :
    s.runBounded store = s.answer found.toList := by
  have hsorted : found.toList.mergeSort (fun a b => a.blog.comesFirst b.blog) = found.toList := by
    cases found with
    | none => exact List.mergeSort_nil
    | some m => exact List.mergeSort_singleton m
  have hlength : found.toList.length ≤ s.limit.toNat := by
    have := Option.length_toList_le (o := found)
    omega
  rw [runBounded_eq_answer hbounds htexts, hfound, hsorted, cut, if_neg (by omega),
    List.take_of_length_le hlength]

theorem cut_found (hkeys : ∀ b ∈ bounds, ∀ m ∈ store.candidates s.joinsAuthor,
      ¬b.mayMiss s.joinsAuthor m) :
    cut s.limit ((s.found bounds store).mergeSort fun a b => a.blog.comesFirst b.blog) =
      s.chosen bounds store := by
  unfold found visited
  split
  · rename_i hnone
    rcases hnone with hlimit | hnever
    · -- Nothing is left within a limit of zero.
      have hcut : ∀ rows : List Match, cut s.limit rows = [] := by
        intro rows
        rw [cut, hlimit, if_neg (by decide)]
        rfl
      rw [chosen, hcut, hcut]
    · have hfalse : ∀ m : Match, bounds.all (·.holds m) = false := by
        intro m
        obtain ⟨b, hb, hb'⟩ := List.any_eq_true.mp hnever
        refine List.all_eq_false.mpr ⟨b, hb, ?_⟩
        cases b with
        | never => exact Bool.false_ne_true
        | _ => nomatch hb'
      simp only [chosen, hfalse, List.filter_false]
  · rw [chosen, List.filter_filter]
    congr 2
    refine List.filter_congr ?_
    intro m hm
    rw [Bool.and_eq_left_iff_imp]
    intro hholds
    exact isTried_of_passes hholds fun b hb => hkeys b hb m hm

theorem prepareBounded_eq (h : s.Within store) : s.prepareBounded = s.prepare := by
  unfold prepareBounded
  rw [if_neg (Nat.not_lt.mpr h.parameters), if_neg (Nat.not_lt.mpr h.depth),
    if_neg (Nat.not_lt.mpr h.columns)]
  cases s.prepare <;> rfl

theorem runBounded_eq_run (h : s.Within store) : s.runBounded store = s.run store := by
  have hprepare := prepareBounded_eq h
  cases hbounds : s.handOver s.prepare with
  | error e => rw [runBounded, run, hprepare, hbounds]; rfl
  | ok bounds =>
    rw [runBounded_eq_answer (hprepare ▸ hbounds) (h.texts bounds hbounds),
      cut_found (h.keys bounds hbounds), run, hbounds, Attempt.ok_bind]

end Select

/-- A database that does not fail by itself, and answers every selection that the store bears with
the rows that its conditions ask for. -/
structure Database.KeepsBounds (db : Database) : Prop where
  dialect : db.dialect = .sqlite
  trouble : ∀ n, db.trouble n = none
  fetch : ∀ (store : Store) (s : Select), s.Within store → db.fetch store s = s.run store

theorem Database.keepsBounds_sqlite : Database.sqlite.KeepsBounds :=
  ⟨rfl, fun _ => rfl, fun _ _ => Select.runBounded_eq_run⟩

/-- The database that the service runs on answers a query on blogs from its selection, as far as it
bears that. -/
theorem Query.rowsOn_sqlite {q : Query} {s : Select} (hs : Select.ofQuery q = .ok s) (store : Store)
    (timeout : Value) {table : Option String}
    (htable : StoreTable.ofName? (q.servedTable table) = some .blog) :
    q.rowsOn .sqlite store timeout table = (s.runBounded store).mapError timeoutOr := by
  rw [rowsOn_eq store timeout rfl (fun _ => rfl) htable, hs, Attempt.ok_bind]
  exact congrArg _ (convert_handOver s s.prepareBounded _)

/-- The store bears the selection of the query, if it has one. -/
def Query.Within (q : Query) (store : Store) : Prop :=
  ∀ s, Select.ofQuery q = .ok s → s.Within store

/-- The store bears what is asked for with the value, if it is accepted. -/
def Whitelist.AsksWithin (w : Whitelist) (store : Store) (raw : Value) : Prop :=
  ∀ s, w.validate raw = .ok s → (Query.ofSpec w s).Within store

theorem Query.within_of_ofQuery {q : Query} {s : Select} (hs : Select.ofQuery q = .ok s)
    {store : Store} (hwithin : s.Within store) : q.Within store := by
  intro s' hs'
  obtain rfl := Except.ok.inj (hs.symm.trans hs')
  exact hwithin

theorem Whitelist.asksWithin_of_validate {w : Whitelist} {raw : Value} {s : Spec}
    (hs : w.validate raw = .ok s) {store : Store} (hwithin : (Query.ofSpec w s).Within store) :
    w.AsksWithin store raw := by
  intro s' hs'
  obtain rfl := Except.ok.inj (hs.symm.trans hs')
  exact hwithin

section Answers

variable {db : Database} (hdb : db.KeepsBounds) {store : Store} (timeout : Value)
include hdb

theorem Query.rowsOn_eq_rows {q : Query} (h : q.Within store) (table : Option String) :
    q.rowsOn db store timeout table = q.rows store timeout table := by
  by_cases hblog : StoreTable.ofName? (q.servedTable table) = some .blog
  · rw [rowsOn_eq store timeout hdb.dialect hdb.trouble hblog, rows_eq store timeout hblog]
    cases hs : Select.ofQuery q with
    | error e => rfl
    | ok s =>
      have hfetch := hdb.fetch store s (h s hs)
      rw [Attempt.ok_bind, Attempt.ok_bind, hfetch]
      exact congrArg _ (convert_handOver s s.prepare _)
  · rw [rowsOn_eq_error store timeout db hblog, rows_eq_error store timeout hblog]

theorem runSpecOn_eq_runSpec {w : Whitelist} {raw : Value} (h : w.AsksWithin store raw) :
    runSpecOn db w store timeout raw = runSpec w store timeout raw := by
  rw [runSpec_eq, runSpecOn]
  cases hs : w.validate raw with
  | error e => rfl
  | ok s =>
    rw [Attempt.ok_bind, Attempt.ok_bind, Query.rowsOn_eq_rows hdb timeout (h s hs)]

end Answers

end QueryGate
