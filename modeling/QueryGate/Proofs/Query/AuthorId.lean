import QueryGate.Proofs.Query.Admission
import QueryGate.Proofs.Query.Lookup
import QueryGate.Proofs.Query.Refusal

/-!
# Two ways to ask for the id of an author

The id of an author is a column of the author, behind the relation, and a column of the blog. Where
every blog has an author, a filter on either selects the same blogs, or fails in the same way; the
rows differ in the author, which only the first of the two shows. Main statement:
`runSpecOn_authorId`.
-/

set_option autoImplicit false

namespace QueryGate

/-- No id stands for two users, and every blog has an author. -/
structure Store.Authored (s : Store) : Prop where
  users : (s.users.map (·.id)).Nodup
  author : ∀ b ∈ s.blogs, ∃ u ∈ s.users, u.id = b.userId

theorem Store.Authored.exists_author {s : Store} (h : s.Authored) {b : Blog} (hb : b ∈ s.blogs) :
    ∃ u ∈ s.users, s.author? b = some u ∧ u.id = b.userId := by
  obtain ⟨u, hu, hid⟩ := h.author b hb
  have hsome : (s.author? b).isSome := List.find?_isSome.mpr ⟨u, hu, beq_iff_eq.mpr hid⟩
  obtain ⟨v, hv⟩ := Option.isSome_iff_exists.mp hsome
  exact ⟨v, List.mem_of_find?_eq_some hv, hv, by simpa using List.find?_some hv⟩

def Filter.holdsOf (f : Filter) (b : Blog) (u : User) : Bool :=
  match f.path.relation with
  | none => (b.cell? f.path.column).any f.condition.holds
  | some _ => (u.cell? f.path.column).any f.condition.holds

namespace Query

variable {w : Whitelist} {s : Spec} {store : Store} {b : Blog} {u : User}

theorem admits_iff (hrelation : ∀ f ∈ s.filters, f.path.relation = none ∨
      f.path.relation = some Select.authorRelation) (hu : store.author? b = some u) :
    (ofSpec w s).admits store b ↔ ∀ f ∈ s.filters, f.holdsOf b u := by
  rw [admits_iff_cells hrelation]
  refine forall₂_congr fun f _ => ?_
  rw [Filter.holdsOf, FieldPath.cell?, hu]
  cases f.path.relation <;> rfl

end Query

namespace Filter

variable {op : Operator} {v : Value}

theorem path_authorId : path ⟨"user.id", op, v⟩ = ⟨some Select.authorRelation, "id"⟩ :=
  FieldPath.ofName_eq_related.mpr ⟨rfl, by decide⟩

theorem path_userId : path ⟨"userId", op, v⟩ = ⟨none, "userId"⟩ := by
  have hdot : '.' ∉ "userId".toList := by decide
  exact FieldPath.ofName_eq_own.mpr ⟨rfl, hdot⟩

theorem isKept_authorId (hv : Whitelist.acceptsValue op v) : IsKept ⟨"user.id", op, v⟩ := by
  refine ⟨?_, hv⟩
  rw [path_authorId]
  exact ⟨_, _, rfl, Whitelist.table?_user, List.mem_cons_self⟩

theorem isKept_userId (hv : Whitelist.acceptsValue op v) : IsKept ⟨"userId", op, v⟩ := by
  refine ⟨?_, hv⟩
  rw [path_userId]
  simp [Whitelist.AllowsPath, Whitelist.blogTable, Whitelist.names]

end Filter

/-- The specs on blogs differ in one filter: the first asks of the id of the author what the second
asks of the column of the blog. No other filter crosses a relation. -/
structure Spec.AsksAuthorId (s s' : Spec) (op : Operator) (v : Value) : Prop where
  table : s.table = "Blog"
  table' : s'.table = "Blog"
  fields : s.fields = s'.fields
  limit : s.limit = s'.limit
  filters : ∃ before after, s.filters = before ++ ⟨"user.id", op, v⟩ :: after ∧
    s'.filters = before ++ ⟨"userId", op, v⟩ :: after ∧
    ∀ f ∈ before ++ after, f.path.relation = none

/-- The entry has the field, the operator and the value of the filter. -/
structure Value.AsksFilter (entry : Value) (f : Filter) : Prop where
  field : entry.memberD "field" = .text f.field
  op : entry.memberD "op" = .text f.op.name
  value : entry.memberD "value" = f.value

/-- The values ask for blogs and are the same but for one entry of their filters. In its place, the
first asks of the id of the author what the second asks of the column of the blog. No other filter
that is kept crosses a relation. -/
structure Value.AsksAuthorId (raw raw' : Value) (op : Operator) (v : Value) : Prop where
  table : raw.memberD "table" = .text "Blog"
  others : ∀ key, key ≠ "filters" → raw.member? key = raw'.member? key
  filters : ∃ before after entry entry',
    raw.member? "filters" = some (.list (before ++ entry :: after)) ∧
    raw'.member? "filters" = some (.list (before ++ entry' :: after)) ∧
    entry.AsksFilter ⟨"user.id", op, v⟩ ∧ entry'.AsksFilter ⟨"userId", op, v⟩ ∧
    ∀ other ∈ before ++ after, ∀ f,
      Whitelist.standard.sanitizeFilter (.text "Blog") other = some f → f.path.relation = none

namespace Whitelist

theorem sanitizeFilter_of_asksFilter {entry : Value} {f : Filter} (h : entry.AsksFilter f)
    (hkept : f.IsKept) : standard.sanitizeFilter (.text "Blog") entry = some f :=
  (sanitizeFilter_eq_some table?_blog).mpr ⟨h.field, h.op, h.value, hkept.path, hkept.value⟩

/-- An entry that becomes a filter does so between the filters of the entries around it. -/
theorem sanitizeFilters_around {w : Whitelist} {table entry : Value} {before after : List Value}
    {f : Filter} (h : w.sanitizeFilter table entry = some f) :
    w.sanitizeFilters table (.list (before ++ entry :: after)) =
      before.filterMap (w.sanitizeFilter table) ++
        f :: after.filterMap (w.sanitizeFilter table) := by
  rw [sanitizeFilters, List.filterMap_append, List.filterMap_cons_some h]

theorem validate_of_asksAuthorId {raw raw' : Value} {op : Operator} {v : Value}
    (h : raw.AsksAuthorId raw' op v) (hv : acceptsValue op v) :
    (∃ e, standard.validate raw = .error e ∧ standard.validate raw' = .error e) ∨
      ∃ s s', standard.validate raw = .ok s ∧ standard.validate raw' = .ok s' ∧
        s.AsksAuthorId s' op v := by
  obtain ⟨before, after, entry, entry', hentries, hentries', hasks, hasks', hothers⟩ := h.filters
  have hmap := validate_eq_map (w := standard) hentries hentries' h.others
  cases hvalid : standard.validate raw' with
  | error e =>
    left
    exact ⟨e, by rw [hmap, hvalid]; rfl, rfl⟩
  | ok s' =>
    right
    rw [hvalid] at hmap
    have hs' := validate_eq_ok.mp hvalid
    have hblog : s'.table = "Blog" := by
      have htable := hs'.table
      rw [Value.memberD, ← h.others "table" (by decide)] at htable
      exact Value.text.inj (htable.symm.trans h.table)
    have hfilter := sanitizeFilter_of_asksFilter hasks (Filter.isKept_authorId hv)
    have hfilter' := sanitizeFilter_of_asksFilter hasks' (Filter.isKept_userId hv)
    refine ⟨_, s', hmap, rfl, hblog, hblog, rfl, rfl,
      before.filterMap (standard.sanitizeFilter (.text "Blog")),
      after.filterMap (standard.sanitizeFilter (.text "Blog")), ?_, ?_, ?_⟩
    · dsimp only
      rw [hblog, sanitizeFilters_around hfilter]
    · rw [hs'.filters, Value.memberD, hentries', hblog]
      exact sanitizeFilters_around hfilter'
    · intro f hf
      rw [← List.filterMap_append] at hf
      obtain ⟨other, hother, hf⟩ := List.mem_filterMap.mp hf
      exact hothers other hother f hf

end Whitelist

def Blog.authoredRow (b : Blog) (u : User) (columns : List String) : Value :=
  .object (columns.map (fun name => (name, Query.shownCell b.cell? name)) ++
    [("user", .object [("id", .int u.id), ("username", .text u.username)])])

namespace Spec.AsksAuthorId

open Whitelist

variable {s s' : Spec} {op : Operator} {v : Value} (h : s.AsksAuthorId s' op v)
include h

theorem forall_filters_iff {p : Filter → Prop}
    (hp : p ⟨"user.id", op, v⟩ ↔ p ⟨"userId", op, v⟩) :
    (∀ f ∈ s.filters, p f) ↔ ∀ f ∈ s'.filters, p f := by
  obtain ⟨before, after, hfilters, hfilters', -⟩ := h.filters
  rw [hfilters, hfilters', List.forall_mem_append, List.forall_mem_append, List.forall_mem_cons,
    List.forall_mem_cons, hp]

theorem crossesAuthor (w : Whitelist) : (Query.ofSpec w s).crossesAuthor := by
  obtain ⟨before, after, hfilters, -⟩ := h.filters
  refine Query.crossesAuthor_iff.mpr ⟨⟨"user.id", op, v⟩, by simp [hfilters], ?_⟩
  rw [Filter.path_authorId]

theorem relation_eq_none : ∀ f ∈ s'.filters, f.path.relation = none := by
  obtain ⟨before, after, -, hfilters', hothers⟩ := h.filters
  rw [List.forall_mem_append] at hothers
  rw [hfilters', List.forall_mem_append, List.forall_mem_cons, Filter.path_userId]
  exact ⟨hothers.1, rfl, hothers.2⟩

theorem not_crossesAuthor (w : Whitelist) : (Query.ofSpec w s').crossesAuthor = false := by
  rw [Bool.eq_false_iff]
  intro hcrosses
  obtain ⟨f, hf, hrelation⟩ := Query.crossesAuthor_iff.mp hcrosses
  rw [h.relation_eq_none f hf] at hrelation
  cases hrelation

theorem relation : ∀ f ∈ s.filters, f.path.relation = none ∨
    f.path.relation = some Select.authorRelation := by
  obtain ⟨before, after, hfilters, -, hothers⟩ := h.filters
  rw [List.forall_mem_append] at hothers
  rw [hfilters, List.forall_mem_append, List.forall_mem_cons, Filter.path_authorId]
  exact ⟨fun f hf => .inl (hothers.1 f hf), .inr rfl, fun f hf => .inl (hothers.2 f hf)⟩

variable {store : Store} {b : Blog} {u : User}

theorem admits_eq (w : Whitelist) (hu : store.author? b = some u) (hid : u.id = b.userId) :
    (Query.ofSpec w s).admits store b = (Query.ofSpec w s').admits store b := by
  -- both filters look at a cell of one kind with the same number in it
  have hholds : Filter.holdsOf ⟨"user.id", op, v⟩ b u = Filter.holdsOf ⟨"userId", op, v⟩ b u := by
    rw [Filter.holdsOf, Filter.holdsOf, Filter.path_authorId, Filter.path_userId]
    show ((some (Cell.int u.id)).any _ : Bool) = (some (Cell.int b.userId)).any _
    rw [hid]
    rfl
  rw [Bool.eq_iff_iff, Query.admits_iff h.relation hu,
    Query.admits_iff (fun f hf => .inl (h.relation_eq_none f hf)) hu]
  exact h.forall_filters_iff (by rw [hholds])

theorem describe_own (w : Whitelist) (store : Store) (b : Blog) :
    (Query.ofSpec w s').describe store b = b.shownRow s'.fields :=
  Query.describe_of_not_crosses (h.not_crossesAuthor w) store b

theorem describe_authored (hu : store.author? b = some u) :
    (Query.ofSpec standard s).describe store b = b.authoredRow u s'.fields := by
  rw [Query.describe, if_pos (h.crossesAuthor standard),
    Query.authorColumns_of_crosses h.table (h.crossesAuthor standard), hu, ← h.fields]
  rfl

theorem forall_isStorable_iff :
    (∀ f ∈ s.filters, f.isStorable) ↔ ∀ f ∈ s'.filters, f.isStorable := by
  refine h.forall_filters_iff ?_
  rw [Filter.isStorable, Filter.isStorable, Filter.path_authorId, Filter.path_userId]
  rfl

variable {raw raw' : Value} (hs : standard.Describes raw s) (hs' : standard.Describes raw' s')
include hs hs'

theorem eq_of_rows_eq_error {timeout : Value} {e e' : Failure}
    (he : (Query.ofSpec standard s).rows store timeout (some s.table) = .error e)
    (he' : (Query.ofSpec standard s').rows store timeout (some s'.table) = .error e') : e = e' := by
  obtain ⟨before, after, hfilters, hfilters', -⟩ := h.filters
  have hkept := Filter.isKept_of_describes hs h.table
  have hkept' := Filter.isKept_of_describes hs' h.table'
  have hid : Filter.IsKept ⟨"user.id", op, v⟩ := hkept _ (by simp [hfilters])
  have hid' : Filter.IsKept ⟨"userId", op, v⟩ := hkept' _ (by simp [hfilters'])
  have hkind : (Filter.path ⟨"user.id", op, v⟩).column?.map (·.kind) =
      (Filter.path ⟨"userId", op, v⟩).column?.map (·.kind) := by
    rw [Filter.path_authorId, Filter.path_userId]
    rfl
  have hsame : ∀ d, Filter.bound ⟨"user.id", op, v⟩ = .error d ↔
      Filter.bound ⟨"userId", op, v⟩ = .error d := fun d =>
    ⟨hid.bound_eq_error hid' rfl rfl hkind, hid'.bound_eq_error hid rfl rfl hkind.symm⟩
  have hfails := (Query.failsWith_of_rows hs h.table he).exchange hfilters hfilters' hsame
  exact hfails.unique hkept' (Query.failsWith_of_rows hs' h.table' he')

theorem exists_rows (hstore : store.Authored) (timeout : Value) :
    (∃ e, (Query.ofSpec standard s).rows store timeout (some s.table) = .error e ∧
      (Query.ofSpec standard s').rows store timeout (some s'.table) = .error e) ∨
    ∃ shown : List Blog, (∀ b ∈ shown, b ∈ store.blogs) ∧
      (Query.ofSpec standard s).rows store timeout (some s.table) =
        .ok (shown.map ((Query.ofSpec standard s).describe store)) ∧
      (Query.ofSpec standard s').rows store timeout (some s'.table) =
        .ok (shown.map ((Query.ofSpec standard s').describe store)) := by
  by_cases hstorable : ∀ f ∈ s.filters, f.isStorable
  · right
    have hadmits : store.blogs.filter ((Query.ofSpec standard s).admits store) =
        store.blogs.filter ((Query.ofSpec standard s').admits store) := by
      refine List.filter_congr ?_
      intro b hb
      obtain ⟨u, -, hu, hid⟩ := hstore.exists_author hb
      exact h.admits_eq standard hu hid
    refine ⟨_, ?_, Query.rows_eq_of_isStorable hs h.table hstore.users hstorable, ?_⟩
    · intro b hb
      have hsorted := List.mem_mergeSort.mp (List.mem_of_mem_take hb)
      exact List.mem_of_mem_filter hsorted
    · rw [hadmits, h.limit]
      exact Query.rows_eq_of_isStorable hs' h.table' hstore.users
        (h.forall_isStorable_iff.mp hstorable)
  · -- The filter that is exchanged can be taken in neither spec or in both, so both fail.
    left
    have hfails : ∃ e, (Query.ofSpec standard s).rows store timeout (some s.table) = .error e :=
      Attempt.exists_error_of_not_ok fun rows hrows =>
        hstorable ((Query.exists_rows_iff_isStorable hs h.table).mp ⟨rows, hrows⟩)
    have hfails' : ∃ e, (Query.ofSpec standard s').rows store timeout (some s'.table) = .error e :=
      Attempt.exists_error_of_not_ok fun rows hrows => hstorable (h.forall_isStorable_iff.mpr
        ((Query.exists_rows_iff_isStorable hs' h.table').mp ⟨rows, hrows⟩))
    obtain ⟨e, he⟩ := hfails
    obtain ⟨e', he'⟩ := hfails'
    obtain rfl := h.eq_of_rows_eq_error hs hs' he he'
    exact ⟨e, he, he'⟩

end Spec.AsksAuthorId

/-- The answers show the same blogs in the same order. The second shows of each blog the fields of
its spec, and the first adds the author, who has the id that the blog names. -/
def Answer.AddsAuthors (store : Store) (a a' : Answer) : Prop :=
  ∃ shown : List Blog, (∀ b ∈ shown, b ∈ store.blogs) ∧
    a'.rows = shown.map (·.shownRow a'.spec.fields) ∧
    List.Forall₂ (fun b row => ∃ u ∈ store.users, u.id = b.userId ∧
      row = b.authoredRow u a'.spec.fields) shown a.rows

/-- Where every blog has an author, a request that filters on the id of the author fails for the
same reason as one that filters on the column of the blog, or is answered with the same blogs, to
each of which it adds the author. -/
theorem runSpec_authorId {store : Store} (hstore : store.Authored) {raw raw' : Value}
    {op : Operator} {v : Value} (h : raw.AsksAuthorId raw' op v)
    (hv : Whitelist.acceptsValue op v) (timeout : Value) :
    (∃ e, runSpec Whitelist.standard store timeout raw = .error e ∧
      runSpec Whitelist.standard store timeout raw' = .error e) ∨
    ∃ a a', runSpec Whitelist.standard store timeout raw = .ok a ∧
      runSpec Whitelist.standard store timeout raw' = .ok a' ∧
      a.spec.AsksAuthorId a'.spec op v ∧ a.AddsAuthors store a' := by
  simp only [runSpec_eq]
  rcases Whitelist.validate_of_asksAuthorId h hv with ⟨e, he, he'⟩ | ⟨s, s', hvalid, hvalid', hasks⟩
  · left
    rw [he, he']
    exact ⟨e, rfl, rfl⟩
  rw [hvalid, hvalid', Attempt.ok_bind, Attempt.ok_bind]
  rcases hasks.exists_rows (Whitelist.validate_eq_ok.mp hvalid)
    (Whitelist.validate_eq_ok.mp hvalid')
    hstore timeout with ⟨e, he, he'⟩ | ⟨shown, hshown, hrows, hrows'⟩
  · left
    rw [he, he']
    exact ⟨e, rfl, rfl⟩
  · right
    rw [hrows, hrows']
    refine ⟨_, _, rfl, rfl, hasks, shown, hshown, ?_, ?_⟩
    · exact congrArg shown.map (funext (hasks.describe_own Whitelist.standard store))
    · rw [List.forall₂_map_right_iff, List.forall₂_same]
      intro b hb
      obtain ⟨u, hmem, hu, hid⟩ := hstore.exists_author (hshown b hb)
      exact ⟨u, hmem, hid, hasks.describe_authored hu⟩

/-- So it is with every database that keeps its bounds, as long as both requests are within
them. -/
theorem runSpecOn_authorId {db : Database} (hdb : db.KeepsBounds) {store : Store}
    (hstore : store.Authored) {raw raw' : Value} {op : Operator} {v : Value}
    (h : raw.AsksAuthorId raw' op v) (hv : Whitelist.acceptsValue op v)
    (hwithin : Whitelist.standard.AsksWithin store raw)
    (hwithin' : Whitelist.standard.AsksWithin store raw') (timeout : Value) :
    (∃ e, runSpecOn db Whitelist.standard store timeout raw = .error e ∧
      runSpecOn db Whitelist.standard store timeout raw' = .error e) ∨
    ∃ a a', runSpecOn db Whitelist.standard store timeout raw = .ok a ∧
      runSpecOn db Whitelist.standard store timeout raw' = .ok a' ∧
      a.spec.AsksAuthorId a'.spec op v ∧ a.AddsAuthors store a' := by
  rw [runSpecOn_eq_runSpec hdb timeout hwithin, runSpecOn_eq_runSpec hdb timeout hwithin']
  exact runSpec_authorId hstore h hv timeout

theorem authored_smallStore : Query.smallStore.Authored := by
  refine ⟨Query.sound_smallStore.users, ?_⟩
  simp only [Query.smallStore, List.mem_cons, List.not_mem_nil, or_false, forall_eq_or_imp,
    forall_eq, exists_eq_or_imp, exists_eq_left]
  decide

def idEntry (field op : String) (v : Value) : Value :=
  .object [("field", .text field), ("op", .text op), ("value", v)]

theorem relation_of_likedEntry {f : Filter}
    (h : Whitelist.standard.sanitizeFilter (.text "Blog") likedEntry = some f) :
    f.path.relation = none := by
  obtain ⟨hfield, -⟩ := (Whitelist.sanitizeFilter_eq_some Whitelist.table?_blog).mp h
  have hname : "likeCount" = f.field := Value.text.inj hfield
  have hdot : '.' ∉ "likeCount".toList := by decide
  rw [Filter.path, ← hname, FieldPath.ofName_eq_own.mpr ⟨rfl, hdot⟩]

theorem asksAuthorId_blogRequest (before : List Value) (hbefore : ∀ other ∈ before, ∀ f,
      Whitelist.standard.sanitizeFilter (.text "Blog") other = some f → f.path.relation = none)
    (op : Operator) (v : Value) :
    (blogRequest (before ++ [idEntry "user.id" op.name v])).AsksAuthorId
      (blogRequest (before ++ [idEntry "userId" op.name v])) op v := by
  refine ⟨rfl, fun _ hkey => member?_blogRequest _ _ hkey, before, [], _, _, rfl, rfl,
    ⟨rfl, rfl, rfl⟩, ⟨rfl, rfl, rfl⟩, ?_⟩
  rwa [List.append_nil]

def authorColumn : ColumnRef := ⟨"user_rel", ⟨"id", .integer⟩⟩

def referenceColumn : ColumnRef := ⟨"Blog", ⟨"userId", .integer⟩⟩

def authoredSelection (clauses : List Clause) : Select where
  outputs := [("id", ⟨Query.keyColumn, "id"⟩)]
  nested := [⟨"user", "id", ⟨authorColumn, "user__id"⟩⟩,
    ⟨"user", "username", ⟨⟨"user_rel", ⟨"username", .text⟩⟩, "user__username"⟩⟩]
  joinsAuthor := true
  clauses := clauses
  limit := 10

def likedClause : Clause := .compare ⟨"Blog", ⟨"likeCount", .integer⟩⟩ .greaterOrEqual (.int 1)

def likedBound : BoundClause :=
  .compare ⟨"Blog", ⟨"likeCount", .integer⟩⟩ .greaterOrEqual (.int 1)

def firstAuthorSpec (field : String) : Spec :=
  ⟨"Blog", ["id"], [⟨"likeCount", .atLeast, .int 1⟩, ⟨field, .oneOf, .list [.int 1]⟩], 10⟩

theorem within_authoredSelection :
    (authoredSelection [likedClause, .oneOf authorColumn [.int 1]]).Within Query.smallStore := by
  have hbounds : (authoredSelection [likedClause, .oneOf authorColumn [.int 1]]).handOver
      (authoredSelection [likedClause, .oneOf authorColumn [.int 1]]).prepare =
        .ok [likedBound, .oneOf authorColumn [.int 1]] := rfl
  exact Select.within_of_handOver hbounds (by decide) (by decide +kernel)

theorem within_referenceSelection :
    (Query.keySelection [likedClause, .oneOf referenceColumn [.int 1]]).Within
      Query.smallStore := by
  have hbounds : (Query.keySelection [likedClause, .oneOf referenceColumn [.int 1]]).handOver
      (Query.keySelection [likedClause, .oneOf referenceColumn [.int 1]]).prepare =
        .ok [likedBound, .oneOf referenceColumn [.int 1]] := rfl
  exact Select.within_of_handOver hbounds (by decide) (by decide +kernel)

/-- Of the first author, one blog is liked. -/
theorem runSpecOn_authorId_smallStore :
    let authored := blogRequest [likedEntry, idEntry "user.id" "in" (.list [.int 1])]
    let plain := blogRequest [likedEntry, idEntry "userId" "in" (.list [.int 1])]
    Database.sqlite.KeepsBounds ∧ Query.smallStore.Authored ∧
      authored.AsksAuthorId plain .oneOf (.list [.int 1]) ∧
      Whitelist.acceptsValue .oneOf (.list [.int 1]) ∧
      Whitelist.standard.AsksWithin Query.smallStore authored ∧
      Whitelist.standard.AsksWithin Query.smallStore plain ∧
      ∃ a a', runSpecOn .sqlite Whitelist.standard Query.smallStore .null authored = .ok a ∧
        runSpecOn .sqlite Whitelist.standard Query.smallStore .null plain = .ok a' ∧
        a'.rows = [.object [("id", .int 3)]] ∧ a.AddsAuthors Query.smallStore a' := by
  intro authored plain
  have hasks : authored.AsksAuthorId plain .oneOf (.list [.int 1]) := by
    refine asksAuthorId_blogRequest [likedEntry] ?_ .oneOf (.list [.int 1])
    simpa using fun f hf => relation_of_likedEntry (f := f) hf
  have hvalid : Whitelist.standard.validate authored = .ok (firstAuthorSpec "user.id") :=
    validate_blogRequest (by cbv)
  have hselection : Select.ofQuery (Query.ofSpec Whitelist.standard (firstAuthorSpec "user.id")) =
      .ok (authoredSelection [likedClause, .oneOf authorColumn [.int 1]]) := by
    cbv
  have hvalid' : Whitelist.standard.validate plain = .ok (firstAuthorSpec "userId") :=
    validate_blogRequest (by cbv)
  have hselection' : Select.ofQuery (Query.ofSpec Whitelist.standard (firstAuthorSpec "userId")) =
      .ok (Query.keySelection [likedClause, .oneOf referenceColumn [.int 1]]) := by
    cbv
  have hwithin : Whitelist.standard.AsksWithin Query.smallStore authored :=
    Whitelist.asksWithin_of_validate hvalid
      (Query.within_of_ofQuery hselection within_authoredSelection)
  have hwithin' : Whitelist.standard.AsksWithin Query.smallStore plain :=
    Whitelist.asksWithin_of_validate hvalid'
      (Query.within_of_ofQuery hselection' within_referenceSelection)
  have hbounds : (Query.keySelection [likedClause, .oneOf referenceColumn [.int 1]]).handOver
      (Query.keySelection [likedClause, .oneOf referenceColumn [.int 1]]).prepareBounded =
        .ok [likedBound, .oneOf referenceColumn [.int 1]] := rfl
  have hfound : (Query.keySelection [likedClause, .oneOf referenceColumn [.int 1]]).found
      [likedBound, .oneOf referenceColumn [.int 1]] Query.smallStore =
        Option.toList (Query.smallStore.blogs[2]?.map fun b => ⟨b, none⟩) := by
    decide +kernel
  have hrun := Select.runBounded_of_found hbounds (by decide +kernel) (by decide) hfound
  have hanswer : runSpecOn .sqlite Whitelist.standard Query.smallStore .null plain =
      .ok ⟨firstAuthorSpec "userId", [.object [("id", .int 3)]]⟩ :=
    runSpecOn_sqlite_of_runBounded hvalid' rfl hselection' hrun
  refine ⟨Database.keepsBounds_sqlite, authored_smallStore, hasks, rfl, hwithin, hwithin', ?_⟩
  rcases runSpecOn_authorId Database.keepsBounds_sqlite authored_smallStore hasks rfl hwithin
    hwithin' .null with ⟨e, -, he⟩ | ⟨a, a', ha, ha', -, hadds⟩
  · rw [hanswer] at he
    cases he
  · rw [hanswer] at ha'
    cases ha'
    exact ⟨a, _, ha, hanswer, rfl, hadds⟩

/-- The spec for the blogs of the author with the least id, named in the field. -/
def leastAuthorSpec (field : String) : Spec :=
  ⟨"Blog", ["id"], [⟨field, .equals, Query.leastReal⟩], 10⟩

theorem authored_leastStore : Query.leastStore.Authored :=
  ⟨Query.sound_leastStore.users, by
    simp only [Query.leastStore, List.mem_singleton, forall_eq, exists_eq_left]⟩

/-- The blog of an author is found through its own column and not through the author, who is looked
up. -/
theorem author_not_found_by_id :
    let authored := blogRequest [idEntry "user.id" "equals" Query.leastReal]
    let plain := blogRequest [idEntry "userId" "equals" Query.leastReal]
    Query.leastStore.Authored ∧ authored.AsksAuthorId plain .equals Query.leastReal ∧
      Whitelist.acceptsValue .equals Query.leastReal ∧
      runSpecOn .sqlite Whitelist.standard Query.leastStore .null authored =
        .ok ⟨leastAuthorSpec "user.id", []⟩ ∧
      runSpecOn .sqlite Whitelist.standard Query.leastStore .null plain =
        .ok ⟨leastAuthorSpec "userId", [.object [("id", .int (-0x8000000000000000))]]⟩ := by
  intro authored plain
  have hasks : authored.AsksAuthorId plain .equals Query.leastReal :=
    asksAuthorId_blogRequest [] (fun _ h => absurd h List.not_mem_nil) .equals Query.leastReal
  refine ⟨authored_leastStore, hasks, rfl, ?_, ?_⟩
  · have hbounds : (authoredSelection [.compare authorColumn .equal Query.leastReal]).handOver
        (authoredSelection [.compare authorColumn .equal Query.leastReal]).prepareBounded =
          .ok [.compare authorColumn .equal Query.leastReal.parameter] := rfl
    have hfound : (authoredSelection [.compare authorColumn .equal Query.leastReal]).found
        [.compare authorColumn .equal Query.leastReal.parameter] Query.leastStore =
          Option.toList none := by
      decide +kernel
    have hrun := Select.runBounded_of_found hbounds (by decide +kernel) (by decide) hfound
    exact runSpecOn_sqlite_of_runBounded (validate_blogRequest (by cbv)) rfl (by cbv) hrun
  · have hbounds : (Query.keySelection [.compare referenceColumn .equal Query.leastReal]).handOver
        (Query.keySelection [.compare referenceColumn .equal Query.leastReal]).prepareBounded =
          .ok [.compare referenceColumn .equal Query.leastReal.parameter] := rfl
    have hfound : (Query.keySelection [.compare referenceColumn .equal Query.leastReal]).found
        [.compare referenceColumn .equal Query.leastReal.parameter] Query.leastStore =
          Option.toList (Query.leastStore.blogs.head?.map fun b => ⟨b, none⟩) := by
      decide +kernel
    exact runSpecOn_sqlite_of_runBounded (validate_blogRequest (by cbv)) rfl (by cbv)
      (Query.runBounded_keySelection hbounds (by decide +kernel) hfound)

end QueryGate
