import QueryGate.Proofs.Whitelist.Catalog
import QueryGate.Proofs.Whitelist.Path

/-!
# Which entries become filters

`Whitelist.AsksFor` says what an entry of a request has to be to ask for a filter, and `Sifts` that
a list of filters is what the entries ask for, one by one. The entries that are kept are exactly
those that ask for a filter. Main statement: `Whitelist.sanitizeFilters_exact`.
-/

set_option autoImplicit false

namespace QueryGate

/-- The results are those of the entries that have one, in order. -/
inductive Sifts {α β : Type} (gives : α → β → Prop) : List α → List β → Prop
  | nil : Sifts gives [] []
  | keep {entry : α} {entries : List α} {result : β} {results : List β}
      (hentry : gives entry result) (h : Sifts gives entries results) :
      Sifts gives (entry :: entries) (result :: results)
  | drop {entry : α} {entries : List α} {results : List β} (hentry : ∀ result, ¬gives entry result)
      (h : Sifts gives entries results) : Sifts gives (entry :: entries) results

/-- What a function gives where it gives anything is what its entries are sifted to, and nothing
else is. -/
theorem sifts_iff_filterMap {α β : Type} {gives : α → β → Prop} {f : α → Option β}
    (hf : ∀ entry result, f entry = some result ↔ gives entry result) {entries : List α}
    {results : List β} : entries.filterMap f = results ↔ Sifts gives entries results := by
  constructor
  · rintro rfl
    induction entries with
    | nil => exact .nil
    | cons entry entries ih =>
      cases hentry : f entry with
      | none =>
        rw [List.filterMap_cons_none hentry]
        refine .drop ?_ ih
        intro result hresult
        rw [(hf entry result).mpr hresult] at hentry
        nomatch hentry
      | some result =>
        rw [List.filterMap_cons_some hentry]
        exact .keep ((hf entry result).mp hentry) ih
  · intro h
    induction h with
    | nil => rfl
    | keep hentry _ ih => rw [List.filterMap_cons_some ((hf _ _).mpr hentry), ih]
    | drop hentry _ ih =>
      rw [List.filterMap_cons_none, ih]
      rw [Option.eq_none_iff_forall_ne_some]
      intro result hresult
      exact hentry result ((hf _ _).mp hresult)

namespace Value

inductive Plain : Value → Prop
  | text (s : String) : Plain (.text s)
  | int (n : Int) : Plain (.int n)
  | float (x : Binary64) : Plain (.float x)
  | bool (b : Bool) : Plain (.bool b)

/-- The values that may stand beside the name of an operator; beside other names, none may. -/
inductive Suits (name : String) : Value → Prop
  | oneOf {items : List Value} (hname : name = "in") (h : ∀ v ∈ items, v = .null ∨ v.Plain) :
      Suits name (.list items)
  | equalsNull (hname : name = "equals") : Suits name .null
  | equals {v : Value} (hname : name = "equals") (h : v.Plain) : Suits name v
  | compared {v : Value} (hname : name ∈ ["contains", "lt", "lte", "gt", "gte"]) (h : v.Plain) :
      Suits name v

theorem isScalar_iff {v : Value} : v.isScalar ↔ v.Plain := by
  constructor
  · intro h
    cases v with
    | text s => exact .text s
    | int n => exact .int n
    | float x => exact .float x
    | bool b => exact .bool b
    | _ => nomatch h
  · rintro (_ | _ | _ | _) <;> rfl

theorem isNull_iff {v : Value} : v.isNull ↔ v = .null := by
  cases v <;> simp [isNull]

end Value

namespace Whitelist

open Value

variable {w : Whitelist} {t : Table}

theorem acceptsValue_iff {op : Operator} {v : Value} : acceptsValue op v ↔ v.Suits op.name := by
  have hcompared : ∀ {name : String}, name ∈ ["contains", "lt", "lte", "gt", "gte"] →
      (v.isScalar ↔ v.Suits name) := by
    intro name hname
    rw [isScalar_iff]
    constructor
    · exact .compared hname
    · rintro (rfl | rfl | ⟨-, h⟩ | ⟨-, h⟩)
      · exact absurd hname (by decide)
      · exact absurd hname (by decide)
      · exact h
      · exact h
  cases op with
  | contains | below | atMost | above | atLeast => exact hcompared (by decide)
  | equals =>
    rw [acceptsValue, Bool.or_eq_true, isNull_iff, isScalar_iff]
    constructor
    · rintro (rfl | h)
      · exact .equalsNull rfl
      · exact .equals rfl h
    · rintro (hname | - | ⟨-, h⟩ | ⟨-, h⟩)
      · exact absurd hname (by decide)
      · exact .inl rfl
      · exact .inr h
      · exact .inr h
  | oneOf =>
    constructor
    · intro h
      cases v with
      | list items =>
        refine .oneOf rfl ?_
        intro item hitem
        have haccepts := List.all_eq_true.mp h item hitem
        rwa [Bool.or_eq_true, isNull_iff, isScalar_iff] at haccepts
      | _ => nomatch h
    · rintro (⟨-, h⟩ | hname | hname | hname)
      · refine List.all_eq_true.mpr ?_
        intro item hitem
        rw [Bool.or_eq_true, isNull_iff, isScalar_iff]
        exact h item hitem
      · exact absurd hname (by decide)
      · exact absurd hname (by decide)
      · exact absurd hname (by decide)

/-- The field names that filters on a table may use: an allowed field without a dot in its name, or
a declared relation, a dot and an allowed field of the table it leads to. -/
inductive Reaches (w : Whitelist) (t : Table) : String → Prop
  | own {name : String} (hdot : '.' ∉ name.toList) (h : .text name ∈ t.fields) : Reaches w t name
  | related {relation column : String} {r : Relation} {target : Table}
      (hdot : '.' ∉ relation.toList) (hrelation : (.text relation, r) ∈ t.relations)
      (htarget : (r.table, target) ∈ w.tables) (h : .text column ∈ target.fields) :
      Reaches w t (relation ++ "." ++ column)

/-- The entry asks for the filter on the table. A missing value counts as null. -/
structure AsksFor (w : Whitelist) (t : Table) (entry : Value) (f : Filter) : Prop where
  object : ∃ members, entry = .object members
  field : entry.member? "field" = some (.text f.field)
  op : entry.member? "op" = some (.text f.op.name)
  value : f.value = (entry.member? "value").getD .null
  reaches : w.Reaches t f.field
  suits : f.value.Suits f.op.name

/-- Filters are made of requests on the table exactly as its whitelist says: of a list the filters
that its entries ask for, of the entries of two lists what is made of each, and of anything else
than a list none. -/
structure Sieves (w : Whitelist) (table : Value) (t : Table) : Prop where
  exact : ∀ entries kept,
    w.sanitizeFilters table (.list entries) = kept ↔ Sifts (w.AsksFor t) entries kept
  append : ∀ front back, w.sanitizeFilters table (.list (front ++ back)) =
    w.sanitizeFilters table (.list front) ++ w.sanitizeFilters table (.list back)
  other : ∀ v, (∀ entries, v ≠ .list entries) → w.sanitizeFilters table v = []

theorem memberD_eq_text {entry : Value} {key s : String} :
    entry.memberD key = .text s ↔ entry.member? key = some (.text s) := by
  unfold memberD
  cases entry.member? key <;> simp

theorem Normal.table?_iff (hw : w.Normal) {name : String} :
    w.table? (.text name) = some t ↔ (.text name, t) ∈ w.tables :=
  ⟨mem_of_get?_text, get?_text_of_mem hw.distinct⟩

theorem Normal.relation?_iff (hw : w.Normal) {key : Value} (ht : (key, t) ∈ w.tables)
    {name : String} {r : Relation} :
    t.relation? (.text name) = some r ↔ (.text name, r) ∈ t.relations :=
  ⟨mem_of_get?_text, get?_text_of_mem (hw.tables _ ht).distinct⟩

theorem allowsPath_ofName_iff (hw : w.Normal) (htexts : w.Textual) {key : Value}
    (ht : (key, t) ∈ w.tables) {name : String} :
    w.AllowsPath t (FieldPath.ofName name) ↔ w.Reaches t name := by
  constructor
  · intro h
    cases hpath : FieldPath.ofName name with
    | mk relation column =>
      rw [hpath] at h
      cases relation with
      | none =>
        obtain ⟨rfl, hdot⟩ := FieldPath.ofName_eq_own.mp hpath
        exact .own hdot h
      | some relation =>
        obtain ⟨rfl, hdot⟩ := FieldPath.ofName_eq_related.mp hpath
        obtain ⟨r, target, hr, htarget, hcolumn⟩ := h
        have hrelation := (hw.relation?_iff ht).mp hr
        obtain ⟨-, -, ⟨s, hs⟩, -⟩ := htexts.relations _ ht _ hrelation
        refine .related hdot hrelation ?_ hcolumn
        rw [hs] at htarget ⊢
        exact hw.table?_iff.mp htarget
  · rintro (⟨hdot, hcolumn⟩ | ⟨hdot, hrelation, htarget, hcolumn⟩)
    · rw [FieldPath.ofName_eq_own.mpr ⟨rfl, hdot⟩]
      exact hcolumn
    · rw [FieldPath.ofName_eq_related.mpr ⟨rfl, hdot⟩]
      obtain ⟨-, -, ⟨s, hs⟩, -⟩ := htexts.relations _ ht _ hrelation
      refine ⟨_, _, (hw.relation?_iff ht).mpr hrelation, ?_, hcolumn⟩
      rw [hs] at htarget ⊢
      exact hw.table?_iff.mpr htarget

theorem sanitizeFilter_iff_asksFor (hw : w.Normal) (htexts : w.Textual) {table : String}
    (ht : (.text table, t) ∈ w.tables) {entry : Value} {f : Filter} :
    w.sanitizeFilter (.text table) entry = some f ↔ w.AsksFor t entry f := by
  rw [sanitizeFilter_eq_some (hw.table?_iff.mpr ht), memberD_eq_text, memberD_eq_text,
    acceptsValue_iff, Filter.path, allowsPath_ofName_iff hw htexts ht]
  constructor
  · rintro ⟨hfield, hop, hvalue, hreaches, hsuits⟩
    refine ⟨?_, hfield, hop, hvalue.symm, hreaches, hsuits⟩
    cases entry with
    | object members => exact ⟨members, rfl⟩
    | _ => nomatch hfield
  · rintro ⟨-, hfield, hop, hvalue, hreaches, hsuits⟩
    exact ⟨hfield, hop, hvalue.symm, hreaches, hsuits⟩

/-- Every table of a whitelist that was read sieves its filters exactly. -/
theorem sanitizeFilters_exact {doc : Value} (h : ofDocument doc = .ok w) (htexts : w.Textual)
    {table : String} (ht : (.text table, t) ∈ w.tables) : w.Sieves (.text table) t where
  exact _ _ := sifts_iff_filterMap fun _ _ =>
    sanitizeFilter_iff_asksFor (normal_of_ofDocument h) htexts ht
  append _ _ := List.filterMap_append
  other v hv := by
    cases v with
    | list entries => exact absurd rfl (hv entries)
    | _ => rfl

/-- Requests for filters, good ones first: after the third stand an operator that there is not, a
list where no list may stand, an entry without an operator, and a text. -/
def mixedEntries : List Value := [
  .object [("field", .text "title"), ("op", .text "equals")],
  .object [("field", .text "user.username"), ("op", .text "in"),
    ("value", .list [.text "ada", .null])],
  .object [("field", .text "likeCount"), ("op", .text "gte"), ("value", .bool true)],
  .object [("field", .text "title"), ("op", .text "like"), ("value", .text "a")],
  .object [("field", .text "title"), ("op", .text "contains"), ("value", .list [.text "a"])],
  .object [("field", .text "title"), ("value", .text "a")],
  .text "title"]

theorem sanitizeFilters_exact_blog :
    ofDocument standardDocument = .ok standard ∧ standard.Textual ∧
      ∃ t, (.text "Blog", t) ∈ standard.tables ∧ standard.Sieves (.text "Blog") t ∧
        Sifts (standard.AsksFor t) mixedEntries [⟨"title", .equals, .null⟩,
          ⟨"user.username", .oneOf, .list [.text "ada", .null]⟩,
          ⟨"likeCount", .atLeast, .bool true⟩] := by
  have hkept : standard.sanitizeFilters (.text "Blog") (.list mixedEntries) =
      [⟨"title", .equals, .null⟩, ⟨"user.username", .oneOf, .list [.text "ada", .null]⟩,
        ⟨"likeCount", .atLeast, .bool true⟩] := by cbv
  obtain ⟨t, ht⟩ : ∃ t, (.text "Blog", t) ∈ standard.tables := ⟨_, List.mem_cons_self⟩
  have hsieves := sanitizeFilters_exact ofDocument_standardDocument textual_standard ht
  exact ⟨ofDocument_standardDocument, textual_standard, t, ht, hsieves,
    (hsieves.exact _ _).mp hkept⟩

end Whitelist

end QueryGate
