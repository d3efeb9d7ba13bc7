import Mathlib.Data.List.Lex
import Mathlib.Data.List.Perm.Subperm
import QueryGate.Proofs.Pipeline
import QueryGate.Proofs.Spec.Verdict
import QueryGate.Proofs.Store.Equality
import QueryGate.Proofs.Whitelist.Path

/-!
# Looking blogs up by what their rows show

A number or a text that a row shows of a blog finds the blog again: the request for the blogs that
have it in that column is answered with just these blogs. Values of filters are not read as
moments, so that the shown form of a moment finds no blog. Main statement: `runSpec_lookup`.
-/

set_option autoImplicit false

namespace QueryGate

namespace Newest

variable {blogs chosen : List Blog} {test : Blog → Bool} {limit : Nat}

theorem nodup (h : Newest blogs test limit chosen) : chosen.Nodup := by
  refine h.ordered.imp ?_
  rintro a b hnewer rfl
  simp [Blog.isNewer, Timestamp.isBefore] at hnewer

theorem perm (h : Newest blogs test limit chosen) (hlimit : blogs.countP test ≤ limit) :
    chosen.Perm (blogs.filter test) := by
  have hsubset : chosen ⊆ blogs.filter test := fun a ha => List.mem_filter.mpr (h.mem a ha)
  have hlength : (blogs.filter test).length ≤ chosen.length := by
    rw [h.length, Nat.min_eq_right hlimit, List.countP_eq_length_filter]
  exact (h.nodup.subperm hsubset).perm_of_length_le hlength

theorem mem_iff (h : Newest blogs test limit chosen) (hlimit : blogs.countP test ≤ limit)
    {b : Blog} : b ∈ chosen ↔ b ∈ blogs ∧ test b := by
  rw [(h.perm hlimit).mem_iff, List.mem_filter]

end Newest

namespace Blog

variable {b : Blog} {column : String} {cell : Cell}

theorem exists_column (h : b.cell? column = some cell) :
    ∃ c, columnNamed? blogColumns column = some c ∧ c.kind = cell.kind := by
  unfold cell? at h
  split at h <;> cases h <;> exact ⟨_, rfl, rfl⟩

theorem path_of_cell? (h : b.cell? column = some cell) :
    FieldPath.ofName column = ⟨none, column⟩ := by
  refine FieldPath.ofName_eq_own.mpr ⟨rfl, ?_⟩
  unfold cell? at h
  split at h <;> first | contradiction | decide

theorem mem_fields_of_cell? (h : b.cell? column = some cell) :
    .text column ∈ Whitelist.blogTable.fields := by
  unfold cell? at h
  split at h <;> first | contradiction | simp [Whitelist.blogTable, Whitelist.names]

theorem exists_cell_of_cell? (h : b.cell? column = some cell) (b' : Blog) :
    ∃ cell', b'.cell? column = some cell' ∧ cell'.kind = cell.kind := by
  obtain ⟨c, hc, hkind⟩ := exists_column h
  obtain ⟨cell', hcell', hkind'⟩ := b'.exists_cell hc
  exact ⟨cell', hcell', hkind'.trans hkind⟩

def shownRow (b : Blog) (columns : List String) : Value :=
  .object (columns.map fun name => (name, Query.shownCell b.cell? name))

end Blog

namespace Query

variable {w : Whitelist} {s : Spec} {f : Filter} {column : String}

theorem describe_of_not_crosses (h : (ofSpec w s).crossesAuthor = false) (store : Store)
    (b : Blog) : (ofSpec w s).describe store b = b.shownRow s.fields := by
  rw [describe, h, if_neg Bool.false_ne_true, List.append_nil]
  rfl

theorem ofFilters_own (hpath : f.path = ⟨none, column⟩) :
    Predicate.ofFilters [f] = ⟨[(column, [f.condition])], []⟩ := by
  rw [Predicate.ofFilters, List.foldl_cons, List.foldl_nil, Predicate.add_of_own hpath]
  rfl

variable (hfilters : s.filters = [f]) (hpath : f.path = ⟨none, column⟩)
include hfilters hpath

theorem crossesAuthor_own : (ofSpec w s).crossesAuthor = false := by
  rw [ofSpec, hfilters, ofFilters_own hpath]
  rfl

theorem admits_own (store : Store) (b : Blog) :
    (ofSpec w s).admits store b = (b.cell? column).any f.condition.holds := by
  rw [admits, crossesAuthor_own hfilters hpath, ofSpec, hfilters, ofFilters_own hpath]
  simp [Conditions.hold, Conditions.flat]

theorem describe_own (store : Store) (b : Blog) :
    (ofSpec w s).describe store b = b.shownRow s.fields :=
  describe_of_not_crosses (crossesAuthor_own hfilters hpath) store b

end Query

/-- The request for the fields of the blogs that have the value in the column. -/
def lookupRequest (column : String) (v fields limit : Value) : Value :=
  .object [("action", .text "select"), ("table", .text "Blog"), ("fields", fields),
    ("filters", .list [.object [("field", .text column), ("op", .text "equals"), ("value", v)]]),
    ("limit", limit)]

open Whitelist

variable {store : Store} {b : Blog} {column : String} {cell : Cell} {fields limit : Value}

def lookupSpec (column : String) (v fields limit : Value) : Spec :=
  ⟨"Blog", standard.grantedFields "Blog" fields, [⟨column, .equals, v⟩],
    standard.sanitizeLimit limit⟩

theorem validate_lookupRequest (hcell : b.cell? column = some cell)
    (hfields : ¬standard.Fieldless "Blog" fields) :
    standard.validate (lookupRequest column cell.toValue fields limit) =
      .ok (lookupSpec column cell.toValue fields limit) := by
  have htexts : ∀ f ∈ standard.allowedFields (.text "Blog"), f.text?.isSome :=
    isText_of_mem_allowedFields (by decide) "Blog"
  have hnamed : standard.NamesTable (lookupRequest column cell.toValue fields limit) "Blog" :=
    ⟨rfl, isSome_table?_text.mp (by rw [table?_blog]; rfl)⟩
  have hfilter : standard.sanitizeFilter (.text "Blog") (.object [("field", .text column),
      ("op", .text "equals"), ("value", cell.toValue)]) = some ⟨column, .equals, cell.toValue⟩ := by
    refine (sanitizeFilter_eq_some table?_blog).mpr ⟨rfl, rfl, rfl, ?_, ?_⟩
    · rw [Filter.path, Blog.path_of_cell? hcell]
      exact Blog.mem_fields_of_cell? hcell
    · cases cell <;> rfl
  have hgranted : ¬standard.grantedFields "Blog"
      ((lookupRequest column cell.toValue fields limit).memberD "fields") = [] :=
    mt grantedFields_eq_nil.mp hfields
  have hfilters : standard.sanitizeFilters (.text "Blog")
      ((lookupRequest column cell.toValue fields limit).memberD "filters") =
        [⟨column, .equals, cell.toValue⟩] := by
    show [_].filterMap (standard.sanitizeFilter (.text "Blog")) = _
    rw [List.filterMap_cons_some hfilter, List.filterMap_nil]
  have hselects : (lookupRequest column cell.toValue fields limit).Selects := ⟨⟨_, rfl⟩, rfl⟩
  rw [validate_of_named htexts hselects hnamed, if_neg hgranted, granted, hfilters]
  rfl

theorem isStorable_lookup (hcell : b.cell? column = some cell)
    (hfits : ∀ n, cell = .int n → fits64 n) :
    Filter.isStorable ⟨column, .equals, cell.toValue⟩ := by
  obtain ⟨c, hc, -⟩ := Blog.exists_column hcell
  have hpath : Filter.path ⟨column, .equals, cell.toValue⟩ = ⟨none, column⟩ :=
    Blog.path_of_cell? hcell
  rw [Filter.isStorable, hpath, FieldPath.column?, hc, Option.any_some, Operator.takes]
  cases cell with
  | int n => exact hfits n rfl
  | text _ | moment _ => rfl

theorem admits_lookup (hcell : b.cell? column = some cell) (b' : Blog) :
    (Query.ofSpec standard (lookupSpec column cell.toValue fields limit)).admits store b' ↔
      b'.cell? column = some cell ∧ cell.kind ≠ .moment := by
  obtain ⟨cell', hcell', hkind⟩ := Blog.exists_cell_of_cell? hcell b'
  rw [Query.admits_own rfl (Blog.path_of_cell? hcell), hcell', Option.any_some, Option.some.injEq]
  exact Condition.holds_equals_toValue hkind

/-- What a column shows of a blog is looked up in the column: the answer holds exactly the blogs
that have it there, the blog itself among them, when it is a number or a text, and no blog when it
is a moment. -/
theorem runSpec_lookup (hstore : store.Sound) (hb : b ∈ store.blogs)
    (hcell : b.cell? column = some cell) (hfits : ∀ n, cell = .int n → fits64 n)
    (hfields : ¬standard.Fieldless "Blog" fields)
    (hlimit : store.blogs.countP (fun b' => b'.cell? column = some cell) ≤
      (standard.sanitizeLimit limit).toNat) (timeout : Value) :
    ∃ (a : Answer) (chosen : List Blog), runSpec standard store timeout
        (lookupRequest column cell.toValue fields limit) = .ok a ∧
      a.spec = lookupSpec column cell.toValue fields limit ∧
      a.rows = chosen.map (·.shownRow a.spec.fields) ∧
      (cell.kind ≠ .moment → b ∈ chosen ∧
        ∀ b', b' ∈ chosen ↔ b' ∈ store.blogs ∧ b'.cell? column = some cell) ∧
      (cell.kind = .moment → a.rows = []) := by
  obtain ⟨chosen, hchosen, hrun⟩ := exists_newest_runSpec (validate_lookupRequest hcell hfields)
    rfl hstore (List.forall_mem_singleton.mpr (isStorable_lookup hcell hfits)) timeout
  rw [funext (Query.describe_own rfl (Blog.path_of_cell? hcell) store)] at hrun
  have hall : store.blogs.countP ((Query.ofSpec standard
      (lookupSpec column cell.toValue fields limit)).admits store) ≤
        (standard.sanitizeLimit limit).toNat := by
    refine le_trans (List.countP_mono_left fun b' _ h => ?_) hlimit
    exact decide_eq_true ((admits_lookup hcell b').mp h).1
  have hmem : ∀ b', b' ∈ chosen ↔
      b' ∈ store.blogs ∧ b'.cell? column = some cell ∧ cell.kind ≠ .moment := by
    intro b'
    rw [hchosen.mem_iff hall, admits_lookup hcell]
  refine ⟨_, chosen, hrun, rfl, rfl, fun hkind => ?_, fun hkind => ?_⟩
  · refine ⟨(hmem b).mpr ⟨hb, hcell, hkind⟩, fun b' => ?_⟩
    rw [hmem b', and_iff_left hkind]
  · have hnone : chosen = [] :=
      List.eq_nil_iff_forall_not_mem.mpr fun b' hb' => ((hmem b').mp hb').2.2 hkind
    rw [hnone, List.map_nil]

theorem not_fieldless_of_mem {name : String} (h : .text name ∈ blogTable.fields) :
    ¬standard.Fieldless "Blog" (.list [.text name]) := by
  intro hnone
  refine hnone name (List.mem_singleton_self _) ?_
  rwa [allowedFields, table?_blog]

def firstBlog : Blog := Query.smallStore.blogs.head (by decide)

/-- The content of the blogs of the store is empty; a limit of three leaves them all. -/
theorem runSpec_lookup_smallStore :
    Query.smallStore.Sound ∧
      ∃ (a : Answer) (chosen : List Blog), runSpec standard Query.smallStore .null
          (lookupRequest "content" (.text "") (.list [.text "id"]) (.int 3)) = .ok a ∧
        a.rows = chosen.map (·.shownRow a.spec.fields) ∧
        ∀ b, b ∈ chosen ↔ b ∈ Query.smallStore.blogs ∧ b.cell? "content" = some (.text "") := by
  have hlimit : Query.smallStore.blogs.countP (fun b => b.cell? "content" = some (.text "")) ≤
      (standard.sanitizeLimit (.int 3)).toNat := by
    decide
  have hcell : firstBlog.cell? "content" = some (.text "") := rfl
  have hfields : ¬standard.Fieldless "Blog" (.list [.text "id"]) :=
    not_fieldless_of_mem (by simp [blogTable, names])
  obtain ⟨a, chosen, ha, -, hrows, hall, -⟩ := runSpec_lookup Query.sound_smallStore
    (List.head_mem _) hcell (by rintro n ⟨⟩) hfields hlimit .null
  exact ⟨Query.sound_smallStore, a, chosen, ha, hrows, (hall (by decide)).2⟩

/-- The selection of a lookup by a column that shows one field, for the ten newest blogs. -/
def lookupSelection (column field : Column) (v : Value) : Select where
  outputs := [(field.name, ⟨⟨"Blog", field⟩, field.name⟩)]
  nested := []
  joinsAuthor := false
  clauses := [.compare ⟨"Blog", column⟩ .equal v]
  limit := 10

/-- A row shows the moment of a blog, and no row is found by what it shows. -/
theorem shown_moment_not_found :
    (∃ a, runSpec standard Query.smallStore .null
        (lookupRequest "id" (.int 1) (.list [.text "createdAt"]) .null) = .ok a ∧
      a.rows = [.object [("createdAt", .text "2024-01-02T00:00:00")]]) ∧
    ∃ a, runSpec standard Query.smallStore .null (lookupRequest "createdAt"
        (.text "2024-01-02T00:00:00") (.list [.text "createdAt"]) .null) = .ok a ∧
      a.rows = [] := by
  have hfields : ¬standard.Fieldless "Blog" (.list [.text "createdAt"]) :=
    not_fieldless_of_mem (by simp [blogTable, names])
  have hfirst : Select.ofQuery (Query.ofSpec standard (lookupSpec "id" (.int 1)
      (.list [.text "createdAt"]) .null)) =
        .ok (lookupSelection ⟨"id", .integer⟩ ⟨"createdAt", .moment⟩ (.int 1)) := by
    cbv
  have hsecond : Select.ofQuery (Query.ofSpec standard (lookupSpec "createdAt"
      (.text "2024-01-02T00:00:00") (.list [.text "createdAt"]) .null)) =
        .ok (lookupSelection ⟨"createdAt", .moment⟩ ⟨"createdAt", .moment⟩
          (.text "2024-01-02T00:00:00")) := by
    cbv
  have hrunFirst : (lookupSelection ⟨"id", .integer⟩ ⟨"createdAt", .moment⟩ (.int 1)).run
      Query.smallStore = .ok [.object [("createdAt", .text "2024-01-02T00:00:00")]] := by
    cbv
  have hrunSecond : (lookupSelection ⟨"createdAt", .moment⟩ ⟨"createdAt", .moment⟩
      (.text "2024-01-02T00:00:00")).run Query.smallStore = .ok [] := by
    cbv
  have hid : firstBlog.cell? "id" = some (.int 1) := rfl
  have hcreated : firstBlog.cell? "createdAt" = some (.moment (.ofDay ⟨2024, 1, 2⟩)) := rfl
  exact ⟨⟨_, runSpec_eq_ok_of_run (validate_lookupRequest hid hfields) rfl hfirst hrunFirst, rfl⟩,
    ⟨_, runSpec_eq_ok_of_run (validate_lookupRequest hcreated hfields) rfl hsecond hrunSecond,
      rfl⟩⟩

end QueryGate
