import QueryGate.Proofs.Query.Execute
import QueryGate.Proofs.Query.Grouping
import QueryGate.Proofs.Store.Bounds
import QueryGate.Proofs.Store.Selection
import QueryGate.Proofs.Whitelist.Document
import QueryGate.Proofs.Whitelist.Standard

/-!
# What a query on blogs is answered with

A compiled query that the store can answer gives the newest blogs that it admits, each as one row.
Main statement: `Query.exists_newest`.
-/

set_option autoImplicit false

namespace QueryGate.Query

/-- The store can answer the query: it crosses no relation but the one to the author, every name is
there and is named once, every condition can be taken, something is returned, and the limit is a
number that can be handed over. -/
structure Answerable (q : Query) : Prop where
  relations : ∀ r ∈ q.predicate.relations, r.1 = Select.authorRelation
  fits : q.Fits
  projection : q.projection.Nodup
  authorColumns : q.authorColumns.Nodup
  returns : q.projection ≠ [] ∨ q.crossesAuthor
  limit_nonneg : 0 ≤ q.limit
  limit_fits : fits64 q.limit

section Rows

variable {q : Query} (hq : q.CrossesAuthorOnly) {store : Store} {timeout : Value}
  {table : Option String} (htable : StoreTable.ofName? (q.servedTable table) = some .blog)
include hq htable

theorem exists_run (hfits : q.Fits) :
    ∃ s bounds, Select.Asks q s ∧ List.Forall₂ Clause.Binds s.clauses bounds ∧
      q.rows store timeout table = (s.run store).mapError timeoutOr := by
  obtain ⟨s, bounds, hs, hbinds⟩ := (Select.exists_binds_iff_fits hq).mpr hfits
  refine ⟨s, bounds, (Select.ofQuery_eq_ok hq).mp hs, hbinds, ?_⟩
  rw [rows_eq store timeout htable, hs]
  rfl

/-- A query that fits the store, returns a column and none twice has a row for each match that its
selection chooses. -/
theorem exists_rows (hfits : q.Fits) (hreturns : q.projection ≠ [] ∨ q.authorColumns ≠ [])
    (hprojection : q.projection.Nodup) (hcolumns : q.authorColumns.Nodup)
    (hlimit : fits64 q.limit) :
    ∃ s bounds, Select.Asks q s ∧ List.Forall₂ Clause.Binds s.clauses bounds ∧
      q.rows store timeout table = .ok ((s.chosen bounds store).map s.row) := by
  obtain ⟨s, bounds, hasks, hbinds, hrows⟩ := exists_run hq htable hfits
  refine ⟨s, bounds, hasks, hbinds, ?_⟩
  rw [hrows, Select.run_eq_ok hasks hbinds hlimit hreturns hprojection hcolumns]
  rfl

/-- Rows are given only where the query fits the store, a column is returned and the limit can be
handed over. -/
theorem fits_of_rows_eq_ok {rows : List Value} (h : q.rows store timeout table = .ok rows) :
    q.Fits ∧ (q.projection ≠ [] ∨ q.authorColumns ≠ []) ∧ fits64 q.limit := by
  rw [rows_eq store timeout htable] at h
  obtain ⟨s, hs, hrun⟩ := Attempt.bind_eq_ok.mp (Attempt.mapError_eq_ok.mp h)
  have hasks := (Select.ofQuery_eq_ok hq).mp hs
  obtain ⟨bounds, hbounds, -⟩ := Attempt.bind_eq_ok.mp hrun
  obtain ⟨hbinds, hprepared, hlimit⟩ := Select.handOver_eq_ok.mp hbounds
  refine ⟨(Select.exists_binds_iff_fits hq).mp ⟨_, _, hs, hbinds⟩, ?_, hasks.limit ▸ hlimit⟩
  have hsome := Select.prepare_eq_ok.mp hprepared
  rwa [Select.isEmpty_iff hasks, not_and_or] at hsome

theorem isInternal_of_rows_eq_error (hreturns : q.projection ≠ [] ∨ q.authorColumns ≠ [])
    {e : Failure} (h : q.rows store timeout table = .error e) : e.isInternal := by
  rw [rows_eq store timeout htable] at h
  obtain ⟨d, hd, rfl⟩ := Attempt.mapError_eq_error.mp h
  have hinternal : d.isInternal := by
    rcases Attempt.bind_eq_error.mp hd with hs | ⟨s, hs, hrun⟩
    · exact Select.isInternal_of_ofQuery hq hs
    have hasks := (Select.ofQuery_eq_ok hq).mp hs
    have hprepared : ∀ e, s.prepare ≠ .error e := by
      intro e h
      have hok : s.prepare = .ok () := by
        rw [Select.prepare_eq_ok, Select.isEmpty_iff hasks]
        exact not_and_or.mpr hreturns
      cases hok.symm.trans h
    rcases Attempt.bind_eq_error.mp hrun with hbounds | ⟨bounds, -, hanswer⟩
    · exact Select.isInternal_of_handOver (fun e h => absurd h (hprepared e)) hbounds
    · exact Select.isInternal_of_answer hanswer
  cases d with
  | query _ | store _ => nomatch hinternal
  | _ => exact hinternal

end Rows

section Compiled

variable {w : Whitelist} {s : Spec}

theorem crossesAuthorOnly_ofSpec
    (h : ∀ r ∈ (ofSpec w s).predicate.relations, r.1 = Select.authorRelation) :
    (ofSpec w s).CrossesAuthorOnly := ⟨(Predicate.grouped_ofFilters s.filters).nodup, h⟩

theorem identifying_ne_nil {doc : Value} (hw : Whitelist.ofDocument doc = .ok w) (table : Value)
    (relation : String) : identifying (w.table? table) relation ≠ [] := by
  rw [identifying]
  split
  · rename_i r hr
    obtain ⟨t, ht, hrelation⟩ := Option.bind_eq_some_iff.mp hr
    cases table with
    | text name =>
      obtain ⟨k, hk⟩ := Assoc.exists_mem_of_get? ht
      obtain ⟨k', hk'⟩ := Assoc.exists_mem_of_get? hrelation
      exact Whitelist.identifies_of_ofDocument hw (k, t) hk (k', r) hk'
    | _ => nomatch ht
  · exact List.cons_ne_nil _ _

theorem crossesAuthor_iff : (ofSpec w s).crossesAuthor ↔
    ∃ f ∈ s.filters, f.path.relation = some Select.authorRelation := by
  rw [← Predicate.mem_keys_relations, crossesAuthor, Option.isSome_iff_ne_none, ne_eq,
    Assoc.get?_eq_none, not_not]
  exact Iff.rfl

/-- The filters of a query that crosses no relation but the one to the author are on the blogs
themselves or behind that relation. -/
theorem relation_eq_none_or_author
    (hq : ∀ r ∈ (ofSpec w s).predicate.relations, r.1 = Select.authorRelation) :
    ∀ f ∈ s.filters, f.path.relation = none ∨ f.path.relation = some Select.authorRelation := by
  intro f hf
  cases hpath : f.path.relation with
  | none => exact .inl rfl
  | some relation =>
    have hkey : relation ∈ Assoc.keys (ofSpec w s).predicate.relations :=
      Predicate.mem_keys_relations.mpr ⟨f, hf, hpath⟩
    obtain ⟨r, hr, rfl⟩ := List.mem_map.mp hkey
    exact .inr (congrArg some (hq r hr))

theorem authorColumns_ofSpec (h : (ofSpec w s).crossesAuthor) :
    (ofSpec w s).authorColumns = identifying (w.table? (.text s.table)) Select.authorRelation := by
  have hkey : Select.authorRelation ∈ Assoc.keys (ofSpec w s).predicate.relations :=
    Predicate.mem_keys_relations.mpr (crossesAuthor_iff.mp h)
  have hget : Assoc.get? Select.authorRelation (ofSpec w s).relationProjection =
      some (identifying (w.table? (.text s.table)) Select.authorRelation) :=
    (Assoc.get?_map_pair _ _ _).trans (if_pos hkey)
  rw [authorColumns, if_pos h, hget]
  rfl

/-- A compiled query that crosses the relation returns an identifying column behind it. -/
theorem authorColumns_ne_nil {doc : Value} (hw : Whitelist.ofDocument doc = .ok w)
    (h : (ofSpec w s).crossesAuthor) : (ofSpec w s).authorColumns ≠ [] := by
  rw [authorColumns_ofSpec h]
  exact identifying_ne_nil hw _ _

/-- The rows of a compiled query that the store can answer are those of the newest blogs that it
admits, and they show the author exactly when a filter is behind the relation. -/
theorem exists_newest_rows {doc : Value} (hw : Whitelist.ofDocument doc = .ok w)
    (hq : (ofSpec w s).Answerable) {store : Store} (hstore : store.Sound) (timeout : Value)
    {table : Option String} (htable : StoreTable.ofName? ((ofSpec w s).servedTable table) =
      some .blog) :
    ∃ chosen, Newest store.blogs ((ofSpec w s).admits store) (ofSpec w s).limit.toNat chosen ∧
      (ofSpec w s).rows store timeout table = .ok (chosen.map ((ofSpec w s).describe store)) ∧
      ((ofSpec w s).crossesAuthor ↔
        ∃ f ∈ s.filters, f.path.relation = some Select.authorRelation) := by
  obtain ⟨selection, bounds, hasks, hbinds, hrows⟩ := exists_rows
    (crossesAuthorOnly_ofSpec hq.relations) htable hq.fits
    (hq.returns.imp id (authorColumns_ne_nil hw)) hq.projection hq.authorColumns hq.limit_fits
  obtain ⟨chosen, hchosen, hdescribe⟩ := Select.exists_newest_chosen hasks hbinds hstore
    hq.limit_nonneg (authorColumns_ne_nil hw)
  exact ⟨chosen, hchosen, hdescribe ▸ hrows, crossesAuthor_iff⟩

end Compiled

def smallStore : Store :=
  let midnight (day : Nat) : Timestamp := .ofDay ⟨2024, 1, day⟩
  { Store.empty with
    users := [⟨1, "ada", "ada@x.org", midnight 1, midnight 1⟩,
      ⟨2, "bob", "bob@x.org", midnight 1, midnight 1⟩]
    blogs := [⟨1, "first", "", 1, 0, midnight 2, midnight 2⟩,
      ⟨2, "second", "", 2, 5, midnight 3, midnight 3⟩,
      ⟨3, "third", "", 1, 7, midnight 3, midnight 3⟩] }

theorem sound_smallStore : smallStore.Sound where
  users := by decide
  blogs := by decide
  created := by
    intro b hb
    simp only [smallStore, List.mem_cons, List.not_mem_nil, or_false] at hb
    rcases hb with rfl | rfl | rfl <;> rfl

def smallSpec : Spec :=
  ⟨"Blog", ["id", "title"],
    [⟨"user.username", .contains, .text "D"⟩, ⟨"likeCount", .atLeast, .int 0⟩], 2⟩

theorem ofSpec_smallSpec : ofSpec Whitelist.standard smallSpec =
    ⟨"Blog", ⟨[("likeCount", [⟨"gte", .int 0⟩])],
        [("user", [("username", [⟨"contains", .text "D"⟩])])]⟩,
      ["id", "title"], 2, [("user", [.text "id", .text "username"])]⟩ := by
  cbv

theorem answerable_smallSpec : (ofSpec Whitelist.standard smallSpec).Answerable := by
  rw [ofSpec_smallSpec]
  have hcolumns : authorColumns ⟨"Blog", ⟨[("likeCount", [⟨"gte", .int 0⟩])],
        [("user", [("username", [⟨"contains", .text "D"⟩])])]⟩,
      ["id", "title"], 2, [("user", [.text "id", .text "username"])]⟩ =
      [.text "id", .text "username"] := rfl
  refine ⟨by decide, ⟨by decide, by cbv, by cbv, ?_⟩, by decide, ?_, .inl (List.cons_ne_nil _ _),
    by decide, by decide⟩
  · rw [hcolumns]
    simp only [List.forall_mem_cons]
    exact ⟨by cbv, by cbv, by simp⟩
  · rw [hcolumns]
    simp

def smallSelection : Select where
  outputs := [("id", ⟨⟨"Blog", ⟨"id", .integer⟩⟩, "id"⟩),
    ("title", ⟨⟨"Blog", ⟨"title", .text⟩⟩, "title"⟩)]
  nested := [⟨"user", "id", ⟨⟨"user_rel", ⟨"id", .integer⟩⟩, "user__id"⟩⟩,
    ⟨"user", "username", ⟨⟨"user_rel", ⟨"username", .text⟩⟩, "user__username"⟩⟩]
  joinsAuthor := true
  clauses := [.compare ⟨"Blog", ⟨"likeCount", .integer⟩⟩ .greaterOrEqual (.int 0),
    .like ⟨"user_rel", ⟨"username", .text⟩⟩ "%D%"]
  limit := 2

theorem within_smallSpec : (ofSpec Whitelist.standard smallSpec).Within smallStore := by
  have hselection : Select.ofQuery (ofSpec Whitelist.standard smallSpec) = .ok smallSelection := by
    cbv
  have hbounds : smallSelection.handOver smallSelection.prepare =
      .ok [.compare ⟨"Blog", ⟨"likeCount", .integer⟩⟩ .greaterOrEqual (.int 0),
        .like ⟨"user_rel", ⟨"username", .text⟩⟩ "%D%"] := rfl
  exact within_of_ofQuery hselection
    (Select.within_of_handOver hbounds (by decide) (by decide +kernel))

def leastStore : Store :=
  let midnight : Timestamp := .ofDay ⟨2024, 1, 1⟩
  { Store.empty with
    users := [⟨-0x8000000000000000, "ada", "ada@x.org", midnight, midnight⟩]
    blogs := [⟨-0x8000000000000000, "first", "", -0x8000000000000000, 0, midnight, midnight⟩] }

def leastReal : Value := .float (.finite true 0x10000000000000 11)

def keyColumn : ColumnRef := ⟨"Blog", ⟨"id", .integer⟩⟩

def keySelection (clauses : List Clause) : Select :=
  ⟨[("id", ⟨keyColumn, "id"⟩)], [], false, clauses, 10⟩

theorem runBounded_keySelection {clauses : List Clause} {bounds : List BoundClause}
    {found : Option Match} (hbounds : (keySelection clauses).handOver
      (keySelection clauses).prepareBounded = .ok bounds)
    (htexts : ∀ b ∈ bounds, ¬b.isTooLarge ∧ ¬b.isTooLong)
    (hfound : (keySelection clauses).found bounds leastStore = found.toList) :
    (keySelection clauses).runBounded leastStore =
      .ok (found.toList.map (keySelection clauses).row) := by
  have hlimit : (1 : Int) ≤ 10 := by decide
  have hlabels : (keySelection clauses).labels.Nodup := List.nodup_singleton _
  rw [Select.runBounded_of_found hbounds htexts hlimit hfound, Select.answer, if_pos]
  rw [decide_eq_true hlabels, Bool.or_true]

theorem sound_leastStore : leastStore.Sound where
  users := by decide
  blogs := by decide
  created := by
    intro b hb
    rw [List.mem_singleton.mp hb]
    rfl

end QueryGate.Query
