import QueryGate.Pipeline
import QueryGate.Proofs.Query.Confinement
import QueryGate.Proofs.Query.Storable

/-!
# What a raw spec ends in

Under the standard whitelist a raw spec is refused with an error for callers, or answered with
rows, unless it is accepted with a filter that the store cannot take. Main statement:
`runSpec_fails_iff`.
-/

set_option autoImplicit false

namespace QueryGate

namespace Whitelist

def blogTable : Table :=
  ⟨.text "Blog", names ["id", "title", "content", "userId", "likeCount", "createdAt", "updatedAt"],
    [(.text "user", authorRelation)]⟩

def userTable : Table :=
  ⟨.text "User", names ["id", "username", "email", "createdAt", "updatedAt"], []⟩

theorem table?_blog : standard.table? (.text "Blog") = some blogTable := by
  cbv

theorem isSome_columnNamed?_blog {name : String} (h : Value.text name ∈ blogTable.fields) :
    (columnNamed? blogColumns name).isSome := by
  simp only [blogTable, names, List.map_cons, List.map_nil, List.mem_cons, Value.text.injEq,
    List.not_mem_nil, or_false] at h
  rcases h with rfl | rfl | rfl | rfl | rfl | rfl | rfl <;> decide

theorem relation?_blog {name : String} {r : Relation}
    (h : blogTable.relation? (.text name) = some r) :
    name = Select.authorRelation ∧ r = authorRelation := by
  rw [Table.relation?, blogTable, Assoc.get?_cons] at h
  split at h
  · rename_i hname
    cases h
    exact ⟨Value.text.inj (Value.text_same.mp hname), rfl⟩
  · cases h

end Whitelist

namespace StoreTable

theorem ofName?_eq_blog {name : String} : ofName? name = some .blog ↔ name = "Blog" := by
  constructor
  · intro h
    have hname := List.find?_some h
    exact (eq_of_beq hname).symm
  · rintro rfl
    rfl

end StoreTable

namespace Query

open Whitelist

theorem servedTable_ofSpec (w : Whitelist) (s : Spec) :
    (ofSpec w s).servedTable (some s.table) = s.table := by
  unfold servedTable
  split
  · split <;> simp_all [ofSpec]
  · rfl

variable {raw : Value} {s : Spec}

theorem authorColumns_of_crosses (hblog : s.table = "Blog")
    (hcrosses : (ofSpec standard s).crossesAuthor) :
    (ofSpec standard s).authorColumns = names ["id", "username"] := by
  rw [authorColumns_ofSpec hcrosses, hblog, table?_blog]
  cbv

theorem authorColumns_eq (hblog : s.table = "Blog") : (ofSpec standard s).authorColumns = [] ∨
    (ofSpec standard s).authorColumns = names ["id", "username"] := by
  cases hcrosses : (ofSpec standard s).crossesAuthor with
  | false => exact .inl (by simp [authorColumns, hcrosses])
  | true => exact .inr (authorColumns_of_crosses hblog hcrosses)

theorem isSome_column_of_mem_authorColumns (hblog : s.table = "Blog") {v : Value}
    (hv : v ∈ (ofSpec standard s).authorColumns) :
    (v.text?.bind (columnNamed? userColumns)).isSome := by
  have hcolumns : ∀ v ∈ names ["id", "username"],
      (v.text?.bind (columnNamed? userColumns)).isSome := by
    simp only [names, List.map_cons, List.map_nil, List.forall_mem_cons]
    exact ⟨by cbv, by cbv, by simp⟩
  rcases authorColumns_eq hblog with hnone | hnames
  · rw [hnone] at hv
    cases hv
  · exact hcolumns v (hnames ▸ hv)

theorem nodup_authorColumns (hblog : s.table = "Blog") :
    (ofSpec standard s).authorColumns.Nodup := by
  rcases authorColumns_eq hblog with hnone | hnames
  · simp [hnone]
  · simp [hnames, names]

theorem nodup_fields (hs : standard.Describes raw s) : s.fields.Nodup := by
  apply List.Nodup.of_map Value.text
  rw [hs.fields]
  refine nodup_keptFields ?_ _ _
  simp [standard, names]

theorem fits64_limit (hs : standard.Describes raw s) : fits64 s.limit := by
  obtain ⟨hpos, hle⟩ := (bounded_of_ofDocument ofDocument_standardDocument).permits_sanitizeLimit
    (raw.memberD "limit")
  rw [← hs.limit] at hpos hle
  have hmax : standard.maxLimit = 100 := rfl
  rw [fits64, Bool.and_eq_true, decide_eq_true_eq, decide_eq_true_eq]
  omega

theorem limit_nonneg (hs : standard.Describes raw s) : 0 ≤ (ofSpec standard s).limit := by
  have hlimit := (bounded_of_ofDocument ofDocument_standardDocument).permits_sanitizeLimit
    (raw.memberD "limit")
  rw [← hs.limit] at hlimit
  exact Int.le_trans (by decide) hlimit.1

theorem ofName?_servedTable (w : Whitelist) (hblog : s.table = "Blog") :
    StoreTable.ofName? ((ofSpec w s).servedTable (some s.table)) = some .blog := by
  rw [servedTable_ofSpec, StoreTable.ofName?_eq_blog]
  exact hblog

section Blogs

variable (hs : standard.Describes raw s) (hblog : s.table = "Blog")
include hs hblog

theorem eq_authorRelation_of_mem {r : String × Conditions}
    (hr : r ∈ (ofSpec standard s).predicate.relations) : r.1 = Select.authorRelation := by
  have hpaths : ∀ f ∈ s.filters, standard.AllowsPath blogTable f.path := by
    intro f hf
    rw [hs.filters, hblog] at hf
    exact (allowsPath_of_mem_sanitizeFilters table?_blog hf).1
  obtain ⟨_, _, hrelation, -⟩ := Predicate.allowed_of_relation hpaths hr
  exact (relation?_blog hrelation).1

theorem isSome_column_of_mem_fields {f : String} (hf : f ∈ s.fields) :
    (columnNamed? blogColumns f).isSome := by
  apply isSome_columnNamed?_blog
  apply mem_fields_of_mem_keptFields table?_blog
  rw [← hblog, ← hs.fields]
  exact List.mem_map_of_mem hf

theorem fits_iff_isStorable :
    (ofSpec standard s).Fits ↔ ∀ f ∈ s.filters, f.isStorable := by
  rw [fits_iff fun _ hr => eq_authorRelation_of_mem hs hblog hr]
  constructor
  · exact fun h => h.2.2
  · intro h
    exact ⟨fun _ hf => isSome_column_of_mem_fields hs hblog hf,
      fun _ hv => isSome_column_of_mem_authorColumns hblog hv, h⟩

variable {store : Store} {timeout : Value}

theorem exists_run_of_isStorable (h : ∀ f ∈ s.filters, f.isStorable) :
    ∃ selection bounds, Select.Asks (ofSpec standard s) selection ∧
      List.Forall₂ Clause.Binds selection.clauses bounds ∧
      (ofSpec standard s).rows store timeout (some s.table) =
        .ok ((selection.chosen bounds store).map selection.row) := by
  have hcrosses := crossesAuthorOnly_ofSpec fun _ hr => eq_authorRelation_of_mem hs hblog hr
  exact exists_rows hcrosses (ofName?_servedTable standard hblog)
    ((fits_iff_isStorable hs hblog).mpr h) (.inl hs.fields_ne_nil) (nodup_fields hs)
    (nodup_authorColumns hblog) (fits64_limit hs)

theorem exists_rows_iff_isStorable :
    (∃ rows, (ofSpec standard s).rows store timeout (some s.table) = .ok rows) ↔
      ∀ f ∈ s.filters, f.isStorable := by
  constructor
  · rintro ⟨rows, hrows⟩
    have hcrosses := crossesAuthorOnly_ofSpec fun _ hr => eq_authorRelation_of_mem hs hblog hr
    rw [← fits_iff_isStorable hs hblog]
    exact (fits_of_rows_eq_ok hcrosses (ofName?_servedTable standard hblog) hrows).1
  · intro hstorable
    obtain ⟨_, _, -, -, hrows⟩ := exists_run_of_isStorable hs hblog hstorable
    exact ⟨_, hrows⟩

theorem rows_eq_of_isStorable (husers : (store.users.map (·.id)).Nodup)
    (h : ∀ f ∈ s.filters, f.isStorable) :
    (ofSpec standard s).rows store timeout (some s.table) =
      .ok ((((store.blogs.filter ((ofSpec standard s).admits store)).mergeSort
        Blog.comesFirst).take s.limit.toNat).map ((ofSpec standard s).describe store)) := by
  obtain ⟨selection, bounds, hasks, hbinds, hrows⟩ := exists_run_of_isStorable hs hblog h
  rw [hrows, Select.map_row_chosen hasks hbinds husers (limit_nonneg hs)
    (authorColumns_ne_nil ofDocument_standardDocument)]
  rfl

theorem exists_newest_of_isStorable (hstore : store.Sound) (h : ∀ f ∈ s.filters, f.isStorable) :
    ∃ chosen, Newest store.blogs ((ofSpec standard s).admits store) s.limit.toNat chosen ∧
      (ofSpec standard s).rows store timeout (some s.table) =
        .ok (chosen.map ((ofSpec standard s).describe store)) :=
  ⟨_, newest_take hstore.blogs hstore.created _ _, rows_eq_of_isStorable hs hblog hstore.users h⟩

theorem isInternal_of_rows {e : Failure}
    (h : (ofSpec standard s).rows store timeout (some s.table) = .error e) : e.isInternal :=
  isInternal_of_rows_eq_error
    (crossesAuthorOnly_ofSpec fun _ hr => eq_authorRelation_of_mem hs hblog hr)
    (ofName?_servedTable standard hblog) (.inl hs.fields_ne_nil) h

end Blogs

end Query

theorem runSpec_eq_ok_of_run {w : Whitelist} {store : Store} {timeout raw : Value} {s : Spec}
    {selection : Select} {rows : List Value} (hvalid : w.validate raw = .ok s)
    (hblog : s.table = "Blog") (hselection : Select.ofQuery (Query.ofSpec w s) = .ok selection)
    (hrun : selection.run store = .ok rows) : runSpec w store timeout raw = .ok ⟨s, rows⟩ := by
  have hrows := Query.rows_eq store timeout (Query.ofName?_servedTable w hblog)
  rw [hselection, Attempt.ok_bind, hrun] at hrows
  exact Attempt.bind_eq_ok.mpr ⟨s, hvalid, Attempt.bind_eq_ok.mpr ⟨rows, hrows, rfl⟩⟩

theorem runSpecOn_sqlite_of_runBounded {w : Whitelist} {store : Store} {timeout raw : Value}
    {s : Spec} {selection : Select} {rows : List Value} (hvalid : w.validate raw = .ok s)
    (hblog : s.table = "Blog") (hselection : Select.ofQuery (Query.ofSpec w s) = .ok selection)
    (hrun : selection.runBounded store = .ok rows) :
    runSpecOn .sqlite w store timeout raw = .ok ⟨s, rows⟩ := by
  have hrows := Query.rowsOn_sqlite hselection store timeout (Query.ofName?_servedTable w hblog)
  rw [hrun] at hrows
  exact Attempt.bind_eq_ok.mpr ⟨s, hvalid, Attempt.bind_eq_ok.mpr ⟨rows, hrows, rfl⟩⟩

theorem runSpec_eq_error {w : Whitelist} {store : Store} {timeout raw : Value} {e : Failure} :
    runSpec w store timeout raw = .error e ↔ w.validate raw = .error e ∨
      ∃ s, w.validate raw = .ok s ∧
        (Query.ofSpec w s).rows store timeout (some s.table) = .error e := by
  rw [runSpec_eq, Attempt.bind_eq_error]
  simp only [Attempt.bind_eq_error]
  simp

/-- An accepted spec on blogs whose filters can all be taken is answered with the rows of the newest
blogs that it admits. -/
theorem exists_newest_runSpec {raw : Value} {s : Spec} {store : Store}
    (hvalid : Whitelist.standard.validate raw = .ok s) (hblog : s.table = "Blog")
    (hstore : store.Sound) (h : ∀ f ∈ s.filters, f.isStorable) (timeout : Value) :
    ∃ chosen, Newest store.blogs ((Query.ofSpec Whitelist.standard s).admits store)
        s.limit.toNat chosen ∧
      runSpec Whitelist.standard store timeout raw =
        .ok ⟨s, chosen.map ((Query.ofSpec Whitelist.standard s).describe store)⟩ := by
  have hs := Whitelist.validate_eq_ok.mp hvalid
  obtain ⟨chosen, hchosen, hrows⟩ := Query.exists_newest_of_isStorable hs hblog hstore h
  refine ⟨chosen, hchosen, ?_⟩
  exact Attempt.bind_eq_ok.mpr ⟨s, hvalid, Attempt.bind_eq_ok.mpr ⟨_, hrows, rfl⟩⟩

/-- Under the standard whitelist, a raw spec fails for a cause that is not meant for callers exactly
when it is accepted as a spec on blogs with a filter that the store cannot take. -/
theorem runSpec_fails_iff (store : Store) (timeout raw : Value) :
    (∃ e, runSpec Whitelist.standard store timeout raw = .error e ∧ ∀ error, e ≠ .query error) ↔
      ∃ s, Whitelist.standard.validate raw = .ok s ∧ s.table = "Blog" ∧
        ∃ f ∈ s.filters, f.isStorable = false := by
  constructor
  · rintro ⟨e, he, hquery⟩
    rcases runSpec_eq_error.mp he with hrefused | ⟨s, hvalid, hrows⟩
    · obtain ⟨error, rfl⟩ := Whitelist.isReported_of_validate_eq_error (by simp
        [Whitelist.standard, Whitelist.names, Value.text?]) hrefused
      exact absurd rfl (hquery error)
    · by_cases hblog : s.table = "Blog"
      · refine ⟨s, hvalid, hblog, ?_⟩
        by_contra hall
        have hstorable : ∀ f ∈ s.filters, f.isStorable := by simpa using hall
        obtain ⟨rows, hok⟩ := (Query.exists_rows_iff_isStorable
          (Whitelist.validate_eq_ok.mp hvalid) hblog).mpr hstorable
        rw [hok] at hrows
        cases hrows
      · have hother : StoreTable.ofName? ((Query.ofSpec Whitelist.standard s).servedTable
            (some s.table)) ≠ some .blog := by
          rwa [Query.servedTable_ofSpec, ne_eq, StoreTable.ofName?_eq_blog]
        rw [Query.rows_eq_error store timeout hother] at hrows
        cases hrows
        exact absurd rfl (hquery _)
  · rintro ⟨s, hvalid, hblog, f, hf, hstorable⟩
    have hs := Whitelist.validate_eq_ok.mp hvalid
    have hnot : ∀ rows, (Query.ofSpec Whitelist.standard s).rows store timeout (some s.table) ≠
        .ok rows := by
      intro rows hrows
      have hf := (Query.exists_rows_iff_isStorable hs hblog).mp ⟨rows, hrows⟩ f hf
      rw [hstorable] at hf
      cases hf
    obtain ⟨e, he⟩ := Attempt.exists_error_of_not_ok hnot
    refine ⟨e, runSpec_eq_error.mpr (.inr ⟨s, hvalid, he⟩), ?_⟩
    rintro error rfl
    have hinternal := Query.isInternal_of_rows hs hblog he
    cases hinternal

example : Filter.isStorable ⟨"id", .equals, .int 0x8000000000000000⟩ = false := by
  cbv

end QueryGate
