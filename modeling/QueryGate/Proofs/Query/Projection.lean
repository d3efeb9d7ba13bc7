import QueryGate.Proofs.Query.Grouping
import QueryGate.Proofs.Spec.Idempotence
import QueryGate.Proofs.Whitelist.Path
import QueryGate.Proofs.Whitelist.Standard

/-!
# The columns that accepted requests bring up

A query returns the fields of its spec and, behind each relation that a filter crosses, the
identifying columns of that relation. Which columns those can be depends on the whitelist alone:
`Query.exists_mem_relationProjection` says it for the related columns, and
`Query.relationProjection_allowed_iff` when all of them are allowed where they come from.
-/

set_option autoImplicit false

namespace QueryGate

namespace Whitelist

/-- Requests can select from the table: the whitelist has it, and one of its fields is a text. -/
def Selectable (w : Whitelist) (table : String) (t : Table) : Prop :=
  w.table? (.text table) = some t ∧ ∃ column, .text column ∈ t.fields

/-- Filters can cross the relation: the table declares it under a name without a dot, and one of
the fields where it leads is a text. -/
def Crossable (w : Whitelist) (t : Table) (relation : String) (r : Relation) : Prop :=
  '.' ∉ relation.toList ∧ t.relation? (.text relation) = some r ∧
    ∃ column, w.reaches r (.text column)

variable {w : Whitelist} {table relation : String} {t : Table} {r : Relation}

theorem Describes.selectable {raw : Value} {s : Spec} (h : w.Describes raw s) :
    ∃ t, w.Selectable s.table t := by
  obtain ⟨t, ht⟩ := Option.isSome_iff_exists.mp h.declared
  obtain ⟨column, hcolumn⟩ := List.exists_mem_of_ne_nil _ h.fields_ne_nil
  have hkept : .text column ∈ w.keptFields (.text s.table) (raw.memberD "fields") := by
    rw [← h.fields]
    exact List.mem_map_of_mem hcolumn
  exact ⟨t, ht, column, mem_fields_of_mem_keptFields ht hkept⟩

theorem Describes.crossable {raw : Value} {s : Spec} (h : w.Describes raw s)
    (ht : w.table? (.text s.table) = some t) {f : Filter} (hf : f ∈ s.filters)
    (hrelation : f.path.relation = some relation) : ∃ r, w.Crossable t relation r := by
  have hpath : f.path = ⟨some relation, f.path.column⟩ := by rw [← hrelation]
  rw [h.filters] at hf
  obtain ⟨hallows, -⟩ := allowsPath_of_mem_sanitizeFilters ht hf
  rw [hpath] at hallows
  obtain ⟨r, target, hr, htarget, hcolumn⟩ := hallows
  have hname := FieldPath.ofName_eq_related.mp (show FieldPath.ofName f.field = _ from hpath)
  exact ⟨r, hname.2, hr, _, reaches_text.mpr ⟨target, htarget, hcolumn⟩⟩

theorem exists_crossing (ht : w.Selectable table t) (hr : w.Crossable t relation r) :
    ∃ raw s, w.Describes raw s ∧ s.table = table ∧
      ∃ f ∈ s.filters, f.path.relation = some relation := by
  obtain ⟨htable, own, hown⟩ := ht
  obtain ⟨hdot, hrelation, column, hcolumn⟩ := hr
  have hpath : FieldPath.ofName (relation ++ "." ++ column) = ⟨some relation, column⟩ :=
    FieldPath.ofName_eq_related.mpr ⟨rfl, hdot⟩
  have hallowed : .text own ∈ w.allowedFields (.text table) := by
    rw [allowedFields, htable]
    exact hown
  have hresolves : w.resolves (.text table) (relation ++ "." ++ column) := by
    rw [resolves_iff htable, hpath]
    obtain ⟨target, htarget, hmem⟩ := reaches_text.mp hcolumn
    exact ⟨r, target, hrelation, htarget, hmem⟩
  let f : Filter := ⟨relation ++ "." ++ column, .equals, .null⟩
  have hfields : w.keptFields (.text table) (.list ([own].map .text)) = [own].map .text :=
    keptFields_map_text (List.cons_ne_nil _ _) (List.nodup_singleton own) (by simpa using hallowed)
  have hfilters : w.sanitizeFilters (.text table) (.list ([f].map Filter.toObject)) = [f] :=
    sanitizeFilters_map_toObject (List.forall_mem_singleton.mpr ⟨hresolves, rfl⟩)
  refine ⟨Spec.toObject ⟨table, [own], [f], 1⟩, ⟨table, [own], [f], w.clampLimit 1⟩, ?_, rfl,
    f, List.mem_singleton_self f, congrArg FieldPath.relation hpath⟩
  exact ⟨rfl, rfl, Option.isSome_of_eq_some htable, hfields.symm, List.cons_ne_nil _ _,
    hfilters.symm, rfl⟩

end Whitelist

namespace Query

variable {w : Whitelist}

theorem mem_relationProjection_ofSpec {s : Spec} {relation : String} {columns : List Value} :
    (relation, columns) ∈ (ofSpec w s).relationProjection ↔
      (∃ f ∈ s.filters, f.path.relation = some relation) ∧
        columns = identifying (w.table? (.text s.table)) relation := by
  rw [← Predicate.mem_keys_relations]
  constructor
  · intro h
    obtain ⟨name, hname, hpair⟩ := List.mem_map.mp h
    obtain ⟨rfl, rfl⟩ := Prod.mk.inj hpair
    exact ⟨hname, rfl⟩
  · rintro ⟨hname, rfl⟩
    exact List.mem_map_of_mem hname

/-- The columns that accepted requests bring up behind a relation are the identifying ones of each
relation that can be crossed on each table that can be selected from. -/
theorem exists_mem_relationProjection {table relation : String} {columns : List Value} :
    (∃ raw s, w.validate raw = .ok s ∧ s.table = table ∧
        (relation, columns) ∈ (ofSpec w s).relationProjection) ↔
      ∃ t r, w.Selectable table t ∧ w.Crossable t relation r ∧ columns = r.identifying := by
  simp only [Whitelist.validate_eq_ok, mem_relationProjection_ofSpec]
  constructor
  · rintro ⟨raw, s, hs, rfl, ⟨f, hf, hrelation⟩, rfl⟩
    obtain ⟨t, ht⟩ := hs.selectable
    obtain ⟨r, hr⟩ := hs.crossable ht.1 hf hrelation
    exact ⟨t, r, ht, hr, by simp [identifying, ht.1, hr.2.1]⟩
  · rintro ⟨t, r, ht, hr, rfl⟩
    obtain ⟨raw, s, hs, rfl, hcrosses⟩ := Whitelist.exists_crossing ht hr
    exact ⟨raw, s, hs, rfl, hcrosses, by simp [identifying, ht.1, hr.2.1]⟩

/-- Every column that the query returns behind a relation is an allowed field of the table that the
relation leads to. -/
def ShowsAllowed (w : Whitelist) (q : Query) : Prop :=
  ∀ p ∈ q.relationProjection, ∀ v ∈ p.2, ∃ t r, w.table? (.text q.table) = some t ∧
    t.relation? (.text p.1) = some r ∧ w.reaches r v

/-- Queries of accepted requests return allowed related columns alone exactly when every relation
that can be crossed is identified by allowed fields of the table that it leads to. The validator
does not look at those columns, and a document may name any. -/
theorem relationProjection_allowed_iff :
    (∀ raw s, w.validate raw = .ok s → ShowsAllowed w (ofSpec w s)) ↔
      ∀ table t relation r, w.Selectable table t → w.Crossable t relation r →
        ∀ v ∈ r.identifying, w.reaches r v := by
  constructor
  · intro h table t relation r ht hr v hv
    obtain ⟨raw, s, hs, rfl, hmem⟩ :=
      exists_mem_relationProjection.mpr ⟨t, r, ht, hr, Eq.refl r.identifying⟩
    obtain ⟨t', r', ht', hr', hreaches⟩ := h raw s hs _ hmem v hv
    obtain rfl : t = t' := Option.some.inj (ht.1.symm.trans ht')
    obtain rfl : r = r' := Option.some.inj (hr.2.1.symm.trans hr')
    exact hreaches
  · rintro h raw s hs ⟨relation, columns⟩ hp v hv
    obtain ⟨t, r, ht, hr, rfl⟩ := exists_mem_relationProjection.mp ⟨raw, s, hs, rfl, hp⟩
    exact ⟨t, r, ht.1, hr.2.1, h s.table t relation r ht hr v hv⟩

/-- A document whose relation names no identifying column, and whose users have no field that the
one in their place could be. -/
def leakyDocument : Value :=
  .object [("tables", .list [
    Whitelist.tableDocument "Blog" ["id", "title"]
      [.object [("name", .text "user"), ("table", .text "User")]],
    Whitelist.tableDocument "User" ["username"] []])]

def leaky : Whitelist where
  version := .int 1
  tables := [
    (.text "Blog", ⟨.text "Blog", Whitelist.names ["id", "title"],
      [(.text "user", ⟨.text "user", .text "User", Whitelist.names ["id"]⟩)]⟩),
    Whitelist.simpleTable "User" ["username"]]
  defaultFields := Whitelist.names ["id", "title", "createdAt"]
  defaultLimit := 10
  maxLimit := 100

theorem ofDocument_leakyDocument : Whitelist.ofDocument leakyDocument = .ok leaky := by
  cbv

def leakySpec : Spec := ⟨"Blog", ["title"], [⟨"user.username", .equals, .text "bob"⟩], 10⟩

theorem validate_leakySpec : leaky.validate leakySpec.toObject = .ok leakySpec :=
  Whitelist.validate_eq_ok.mpr
    ⟨rfl, rfl, by cbv, by cbv, List.cons_ne_nil _ _, by cbv, by cbv⟩

/-- The document is accepted and so is the request, and yet its filter by the author's name brings
up the author's id. -/
theorem not_showsAllowed_leaky :
    Whitelist.ofDocument leakyDocument = .ok leaky ∧
      leaky.validate leakySpec.toObject = .ok leakySpec ∧
      ¬ShowsAllowed leaky (ofSpec leaky leakySpec) := by
  refine ⟨ofDocument_leakyDocument, validate_leakySpec, ?_⟩
  intro h
  have hprojection : (ofSpec leaky leakySpec).relationProjection = [("user", [.text "id"])] := by
    cbv
  have hcolumns : ("user", [.text "id"]) ∈ (ofSpec leaky leakySpec).relationProjection := by
    rw [hprojection]
    exact List.mem_singleton_self _
  obtain ⟨t, r, ht, hr, hreaches⟩ := h _ hcolumns (.text "id") (List.mem_singleton_self _)
  obtain rfl : _ = t := Option.some.inj ht
  obtain rfl : _ = r := Option.some.inj hr
  exact absurd hreaches (by decide)

end Query

end QueryGate
