import QueryGate.Proofs.Pipeline
import QueryGate.Proofs.Query.Outline

/-!
# The order of filters does not show

Filters that are all to hold may come in any order and any number of times. Main statement:
`runSpec_rows_iff`. A list of filters shows in the rows only through its members: the clauses of a
selection are those of its filters, and a match is chosen when it passes every one of them.
-/

set_option autoImplicit false

namespace QueryGate

/-- The values are objects that differ in their filters only, and there in no entry but in the order
and the repetition of entries. -/
structure Value.Rearranges (raw raw' : Value) : Prop where
  others : ∀ key, key ≠ "filters" → raw.member? key = raw'.member? key
  filters : ∃ entries entries', raw.member? "filters" = some (.list entries) ∧
    raw'.member? "filters" = some (.list entries') ∧ ∀ entry, entry ∈ entries ↔ entry ∈ entries'

theorem Value.Rearranges.symm {raw raw' : Value} (h : raw.Rearranges raw') :
    raw'.Rearranges raw := by
  obtain ⟨entries, entries', hentries, hentries', hmem⟩ := h.filters
  refine ⟨?_, entries', entries, hentries', hentries, fun entry => (hmem entry).symm⟩
  intro key hkey
  exact (h.others key hkey).symm

/-- The specs differ in the order and the repetition of their filters only. -/
structure Spec.Rearranges (s s' : Spec) : Prop where
  table : s.table = s'.table
  fields : s.fields = s'.fields
  limit : s.limit = s'.limit
  filters : ∀ f, f ∈ s.filters ↔ f ∈ s'.filters

theorem Spec.Rearranges.sameOutline {s s' : Spec} (h : s.Rearranges s') : s.SameOutline s' := by
  refine ⟨h.table, h.fields, h.limit, ?_⟩
  intro relation
  simp only [Spec.Crosses, h.filters]

namespace Whitelist

theorem exists_rearranged {w : Whitelist} {raw raw' : Value} {s : Spec}
    (h : raw.Rearranges raw') (hs : w.validate raw = .ok s) :
    ∃ s', w.validate raw' = .ok s' ∧ s.Rearranges s' := by
  obtain ⟨entries, entries', hentries, hentries', hmem⟩ := h.filters
  have hvalid := validate_eq_map (w := w) hentries' hentries h.symm.others
  rw [hs] at hvalid
  refine ⟨_, hvalid, rfl, rfl, rfl, ?_⟩
  intro f
  have hold : s.filters = entries.filterMap (w.sanitizeFilter (.text s.table)) := by
    rw [(validate_eq_ok.mp hs).filters, Value.memberD, hentries]
    rfl
  simp only [hold, sanitizeFilters, List.mem_filterMap, hmem]

end Whitelist

namespace Select

/-- The selections differ in the order and the repetition of their clauses only. -/
structure Rearranges (s s' : Select) : Prop where
  outputs : s.outputs = s'.outputs
  nested : s.nested = s'.nested
  joinsAuthor : s.joinsAuthor = s'.joinsAuthor
  limit : s.limit = s'.limit
  clauses : ∀ c, c ∈ s.clauses ↔ c ∈ s'.clauses

theorem mem_bounds_iff {clauses : List Clause} {bounds : List BoundClause}
    (h : List.Forall₂ Clause.Binds clauses bounds) {bound : BoundClause} :
    bound ∈ bounds ↔ ∃ clause ∈ clauses, clause.Binds bound := by
  refine Attempt.mem_iff_of_forall₂ h ?_
  rintro clause bound bound' ⟨converted, hconverted, hbound⟩ ⟨converted', hconverted', hbound'⟩
  have hsame : converted = converted' := Except.ok.inj (hconverted.symm.trans hconverted')
  subst hsame
  exact Except.ok.inj (hbound.symm.trans hbound')

theorem exists_bounds {clauses clauses' : List Clause} {bounds : List BoundClause}
    (h : List.Forall₂ Clause.Binds clauses bounds) (hmem : ∀ c ∈ clauses', c ∈ clauses) :
    ∃ bounds', List.Forall₂ Clause.Binds clauses' bounds' := by
  apply Attempt.exists_forall₂.mpr
  intro clause hclause
  exact Attempt.exists_forall₂.mp ⟨bounds, h⟩ clause (hmem clause hclause)

variable {s s' : Select} {store : Store}

theorem chosen_eq (h : s.Rearranges s') {bounds bounds' : List BoundClause}
    (hbounds : List.Forall₂ Clause.Binds s.clauses bounds)
    (hbounds' : List.Forall₂ Clause.Binds s'.clauses bounds') :
    s.chosen bounds store = s'.chosen bounds' store := by
  have hmem : ∀ bound, bound ∈ bounds ↔ bound ∈ bounds' := by
    intro bound
    simp only [mem_bounds_iff hbounds, mem_bounds_iff hbounds', h.clauses]
  have hholds : ∀ m : Match, bounds.all (·.holds m) = bounds'.all (·.holds m) := by
    intro m
    rw [Bool.eq_iff_iff, List.all_eq_true, List.all_eq_true]
    constructor
    · intro hall bound hbound
      exact hall bound ((hmem bound).mpr hbound)
    · intro hall bound hbound
      exact hall bound ((hmem bound).mp hbound)
  simp only [chosen, h.joinsAuthor, h.limit, hholds]

theorem run_eq_ok_of_rearranges (h : s.Rearranges s') {rows : List Value}
    (hrun : s.run store = .ok rows) : s'.run store = .ok rows := by
  obtain ⟨bounds, hhanded, hanswer⟩ := Attempt.bind_eq_ok.mp hrun
  obtain ⟨hbounds, hprepared, hlimit⟩ := handOver_eq_ok.mp hhanded
  obtain ⟨bounds', hbounds'⟩ := exists_bounds hbounds fun c hc => (h.clauses c).mpr hc
  have hprepared' : s'.prepare = .ok () := by
    rw [prepare_eq_ok, ← h.outputs, ← h.nested]
    exact prepare_eq_ok.mp hprepared
  have hrow : s.row = s'.row := by
    funext m
    simp only [row, ownMembers, nestedMembers, h.outputs, h.nested]
  have hlabels : s.labels = s'.labels := by
    simp only [labels, h.outputs, h.nested]
  refine Attempt.bind_eq_ok.mpr
    ⟨bounds', handOver_eq_ok.mpr ⟨hbounds', hprepared', h.limit ▸ hlimit⟩, ?_⟩
  rw [chosen_eq h hbounds hbounds', answer, hrow, hlabels] at hanswer
  exact hanswer

theorem mem_clausesOf_iff {qualifier : String} {columns : List Column} {cs : Conditions}
    {clauses : List Clause} (h : clausesOf (findColumn qualifier columns) cs = .ok clauses)
    {clause : Clause} : clause ∈ clauses ↔
      ∃ p ∈ cs.flat, clauseOf (findColumn qualifier columns) p = .ok clause := by
  rw [clausesOf_eq, Attempt.mapM_eq_ok] at h
  refine Attempt.mem_iff_of_forall₂ h ?_
  intro p clause clause' hclause hclause'
  exact Except.ok.inj (hclause.symm.trans hclause')

theorem exists_clausesOf {qualifier : String} {columns : List Column} {cs cs' : Conditions}
    {clauses : List Clause} (h : clausesOf (findColumn qualifier columns) cs = .ok clauses)
    (hmem : ∀ p, p ∈ cs.flat ↔ p ∈ cs'.flat) :
    ∃ clauses', clausesOf (findColumn qualifier columns) cs' = .ok clauses' ∧
      ∀ c, c ∈ clauses ↔ c ∈ clauses' := by
  have hexists : ∃ clauses', clausesOf (findColumn qualifier columns) cs' = .ok clauses' := by
    simp only [clausesOf_eq, Attempt.mapM_eq_ok] at h ⊢
    apply Attempt.exists_forall₂.mpr
    intro p hp
    exact Attempt.exists_forall₂.mp ⟨clauses, h⟩ p ((hmem p).mpr hp)
  obtain ⟨clauses', h'⟩ := hexists
  refine ⟨clauses', h', ?_⟩
  intro c
  simp only [mem_clausesOf_iff h, mem_clausesOf_iff h', hmem]

end Select

namespace Query

variable {w : Whitelist} {s s' : Spec}

theorem mem_flat_rearranged (h : s.Rearranges s') (relation : Option String)
    (p : String × Condition) :
    p ∈ ((ofSpec w s).predicate.conditionsBehind relation).flat ↔
      p ∈ ((ofSpec w s').predicate.conditionsBehind relation).flat := by
  simp only [ofSpec, Predicate.mem_flat_conditionsBehind, h.filters]

theorem exists_ofQuery_rearranged (h : s.Rearranges s') {selection : Select}
    (hs : Select.ofQuery (ofSpec w s) = .ok selection) :
    ∃ selection', Select.ofQuery (ofSpec w s') = .ok selection' ∧
      selection.Rearranges selection' := by
  have hrelations := Select.relation_of_ofQuery hs
  have hasks := (Select.ofQuery_eq_ok (crossesAuthorOnly_ofSpec hrelations)).mp hs
  obtain ⟨own, author, hown, hauthor, hclauses⟩ := hasks.clauses
  obtain ⟨own', hown', hmemOwn⟩ := Select.exists_clausesOf hown (mem_flat_rearranged h none)
  obtain ⟨author', hauthor', hmemAuthor⟩ :=
    Select.exists_clausesOf hauthor (mem_flat_rearranged h (some Select.authorRelation))
  have hcrosses := crossesAuthorOnly_of_outline h.sameOutline hrelations
  refine ⟨{ selection with clauses := own' ++ author' }, ?_, rfl, rfl, rfl, rfl, ?_⟩
  · exact (Select.ofQuery_eq_ok hcrosses).mpr (hasks.of_outline h.sameOutline hown' hauthor')
  · intro c
    rw [hclauses, List.mem_append, List.mem_append, hmemOwn, hmemAuthor]

theorem rows_eq_ok_of_rearranges (h : s.Rearranges s') {store : Store} {timeout : Value}
    {rows : List Value} (hrows : (ofSpec w s).rows store timeout (some s.table) = .ok rows) :
    (ofSpec w s').rows store timeout (some s'.table) = .ok rows := by
  by_cases hserved : StoreTable.ofName? ((ofSpec w s).servedTable (some s.table)) = some .blog
  · have hserved' : StoreTable.ofName? ((ofSpec w s').servedTable (some s'.table)) =
        some .blog := by
      rwa [servedTable_ofSpec, ← h.table, ← servedTable_ofSpec w s]
    rw [rows_eq store timeout hserved, Attempt.mapError_eq_ok] at hrows
    obtain ⟨selection, hselection, hrun⟩ := Attempt.bind_eq_ok.mp hrows
    obtain ⟨selection', hselection', hsame⟩ := exists_ofQuery_rearranged h hselection
    rw [rows_eq store timeout hserved', Attempt.mapError_eq_ok]
    exact Attempt.bind_eq_ok.mpr
      ⟨selection', hselection', Select.run_eq_ok_of_rearranges hsame hrun⟩
  · rw [rows_eq_error store timeout hserved] at hrows
    nomatch hrows

end Query

theorem exists_answer_rearranged {w : Whitelist} {store : Store} {timeout raw raw' : Value}
    (h : raw.Rearranges raw') {a : Answer} (ha : runSpec w store timeout raw = .ok a) :
    ∃ a', runSpec w store timeout raw' = .ok a' ∧ a'.rows = a.rows := by
  obtain ⟨s, hs, ha⟩ := Attempt.bind_eq_ok.mp ha
  obtain ⟨rows, hrows, ha⟩ := Attempt.bind_eq_ok.mp ha
  obtain ⟨s', hs', hsame⟩ := Whitelist.exists_rearranged h hs
  have hrows' := Query.rows_eq_ok_of_rearranges hsame hrows
  cases ha
  refine ⟨⟨s', rows⟩, ?_, rfl⟩
  exact Attempt.bind_eq_ok.mpr ⟨s', hs', Attempt.bind_eq_ok.mpr ⟨rows, hrows', rfl⟩⟩

theorem runSpec_rows_iff {raw raw' : Value} (h : raw.Rearranges raw') (w : Whitelist)
    (store : Store) (timeout : Value) (rows : List Value) :
    (∃ a, runSpec w store timeout raw = .ok a ∧ a.rows = rows) ↔
      ∃ a, runSpec w store timeout raw' = .ok a ∧ a.rows = rows := by
  constructor
  · rintro ⟨a, ha, rfl⟩
    exact exists_answer_rearranged h ha
  · rintro ⟨a, ha, rfl⟩
    exact exists_answer_rearranged h.symm ha

def authorEntry : Value :=
  .object [("field", .text "user.username"), ("op", .text "contains"), ("value", .text "D")]

def likedEntry : Value :=
  .object [("field", .text "likeCount"), ("op", .text "gte"), ("value", .int 1)]

def listedEntry : Value :=
  .object [("field", .text "likeCount"), ("op", .text "in"), ("value", .list [.int 0, .int 7])]

def blogRequest (entries : List Value) : Value :=
  .object [("action", .text "select"), ("table", .text "Blog"), ("fields", .list [.text "id"]),
    ("filters", .list entries)]

def blogRequestSpec : Spec :=
  ⟨"Blog", ["id"], [⟨"user.username", .contains, .text "D"⟩, ⟨"likeCount", .atLeast, .int 1⟩,
    ⟨"likeCount", .oneOf, .list [.int 0, .int 7]⟩], 10⟩

/-- What the spec asks the store for: the groups of the blog come before those of its author. -/
def blogRequestSelection : Select where
  outputs := [("id", ⟨⟨"Blog", ⟨"id", .integer⟩⟩, "id"⟩)]
  nested := [⟨"user", "id", ⟨⟨"user_rel", ⟨"id", .integer⟩⟩, "user__id"⟩⟩,
    ⟨"user", "username", ⟨⟨"user_rel", ⟨"username", .text⟩⟩, "user__username"⟩⟩]
  joinsAuthor := true
  clauses := [.compare ⟨"Blog", ⟨"likeCount", .integer⟩⟩ .greaterOrEqual (.int 1),
    .oneOf ⟨"Blog", ⟨"likeCount", .integer⟩⟩ [.int 0, .int 7],
    .like ⟨"user_rel", ⟨"username", .text⟩⟩ "%D%"]
  limit := 10

theorem member?_blogRequest (entries entries' : List Value) {key : String}
    (hkey : key ≠ "filters") :
    (blogRequest entries).member? key = (blogRequest entries').member? key := by
  simp [blogRequest, Value.member?, Assoc.get?, Ne.symm hkey]

theorem rearranges_blogRequest {entries entries' : List Value}
    (h : ∀ entry, entry ∈ entries ↔ entry ∈ entries') :
    (blogRequest entries).Rearranges (blogRequest entries') :=
  ⟨fun _ hkey => member?_blogRequest entries entries' hkey, entries, entries', rfl, rfl, h⟩

/-- A request for ids of blogs is accepted with what is left of its filters. -/
theorem validate_blogRequest {entries : List Value} {filters : List Filter}
    (h : filters = Whitelist.standard.sanitizeFilters (.text "Blog") (.list entries)) :
    Whitelist.standard.validate (blogRequest entries) = .ok ⟨"Blog", ["id"], filters, 10⟩ :=
  Whitelist.validate_eq_ok.mpr
    ⟨rfl, rfl, by cbv, by cbv, List.cons_ne_nil _ _, h, by cbv⟩

theorem ofQuery_blogRequest :
    Select.ofQuery (Query.ofSpec Whitelist.standard blogRequestSpec) =
      .ok blogRequestSelection := by
  cbv

def blogRequestBounds : List BoundClause :=
  [.compare ⟨"Blog", ⟨"likeCount", .integer⟩⟩ .greaterOrEqual (.int 1),
    .oneOf ⟨"Blog", ⟨"likeCount", .integer⟩⟩ [.int 0, .int 7],
    .like ⟨"user_rel", ⟨"username", .text⟩⟩ "%D%"]

theorem within_blogRequest : blogRequestSelection.Within Query.smallStore := by
  have hbounds : blogRequestSelection.handOver blogRequestSelection.prepare =
      .ok blogRequestBounds := rfl
  exact Select.within_of_handOver hbounds (by decide) (by decide +kernel)

theorem runSpecOn_blogRequest :
    ∃ a, runSpecOn .sqlite Whitelist.standard Query.smallStore .null
        (blogRequest [authorEntry, likedEntry, listedEntry]) = .ok a ∧
      a.rows = [.object [("id", .int 3),
        ("user", .object [("id", .int 1), ("username", .text "ada")])]] := by
  have hbounds : blogRequestSelection.handOver blogRequestSelection.prepareBounded =
      .ok blogRequestBounds := rfl
  let third : Option Match :=
    Query.smallStore.blogs[2]?.bind fun b => Query.smallStore.users.head?.map (⟨b, some ·⟩)
  have hfound : blogRequestSelection.found blogRequestBounds Query.smallStore = third.toList := by
    decide +kernel
  have hrun := Select.runBounded_of_found hbounds (by decide +kernel) (by decide) hfound
  exact ⟨_, runSpecOn_sqlite_of_runBounded (validate_blogRequest (by cbv)) rfl
    ofQuery_blogRequest hrun, rfl⟩

/-- The same request with its filters turned around, and the first of them repeated. -/
def turnedSpec : Spec :=
  ⟨"Blog", ["id"], [⟨"likeCount", .oneOf, .list [.int 0, .int 7]⟩, ⟨"likeCount", .atLeast, .int 1⟩,
    ⟨"user.username", .contains, .text "D"⟩, ⟨"likeCount", .oneOf, .list [.int 0, .int 7]⟩], 10⟩

def turnedSelection : Select :=
  { blogRequestSelection with
    clauses := [.oneOf ⟨"Blog", ⟨"likeCount", .integer⟩⟩ [.int 0, .int 7],
      .compare ⟨"Blog", ⟨"likeCount", .integer⟩⟩ .greaterOrEqual (.int 1),
      .oneOf ⟨"Blog", ⟨"likeCount", .integer⟩⟩ [.int 0, .int 7],
      .like ⟨"user_rel", ⟨"username", .text⟩⟩ "%D%"] }

theorem ofQuery_turnedSpec :
    Select.ofQuery (Query.ofSpec Whitelist.standard turnedSpec) = .ok turnedSelection := by
  cbv

theorem within_turnedSelection : turnedSelection.Within Query.smallStore := by
  have hbounds : turnedSelection.handOver turnedSelection.prepare =
      .ok [.oneOf ⟨"Blog", ⟨"likeCount", .integer⟩⟩ [.int 0, .int 7],
        .compare ⟨"Blog", ⟨"likeCount", .integer⟩⟩ .greaterOrEqual (.int 1),
        .oneOf ⟨"Blog", ⟨"likeCount", .integer⟩⟩ [.int 0, .int 7],
        .like ⟨"user_rel", ⟨"username", .text⟩⟩ "%D%"] := rfl
  exact Select.within_of_handOver hbounds (by decide) (by decide +kernel)

def keyEntry (id : Value) : Value :=
  .object [("field", .text "id"), ("op", .text "equals"), ("value", id)]

def keySpec (first second : Value) : Spec :=
  ⟨"Blog", ["id"], [⟨"id", .equals, first⟩, ⟨"id", .equals, second⟩], 10⟩

def keyClauses (first second : Value) : List Clause :=
  [.compare Query.keyColumn .equal first, .compare Query.keyColumn .equal second]

/-- What is answered to two filters on the id is what is found by them, one blog or none. -/
theorem runSpecOn_keySpec {first second : Value} {bounds : List BoundClause} {found : Option Match}
    (hfilters : (keySpec first second).filters =
      Whitelist.standard.sanitizeFilters (.text "Blog") (.list [keyEntry first, keyEntry second]))
    (hselection : Select.ofQuery (Query.ofSpec Whitelist.standard (keySpec first second)) =
      .ok (Query.keySelection (keyClauses first second)))
    (hbounds : (Query.keySelection (keyClauses first second)).handOver
      (Query.keySelection (keyClauses first second)).prepareBounded = .ok bounds)
    (htexts : ∀ b ∈ bounds, ¬b.isTooLarge ∧ ¬b.isTooLong)
    (hfound : (Query.keySelection (keyClauses first second)).found bounds Query.leastStore =
      found.toList) :
    runSpecOn .sqlite Whitelist.standard Query.leastStore .null
        (blogRequest [keyEntry first, keyEntry second]) =
      .ok ⟨keySpec first second,
        found.toList.map (Query.keySelection (keyClauses first second)).row⟩ := by
  exact runSpecOn_sqlite_of_runBounded (validate_blogRequest hfilters) rfl hselection
    (Query.runBounded_keySelection hbounds htexts hfound)

end QueryGate
