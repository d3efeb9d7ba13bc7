import QueryGate.Proofs.Query.Grouping
import QueryGate.Proofs.Spec.Accepted
import QueryGate.Proofs.Whitelist.Standard

/-!
# Queries name nothing but what is allowed

Whatever value a spec is accepted from, every name of the compiled query is one that the whitelist
allows: its table, its columns, the columns that its conditions are on, the relations that it
crosses and the columns of the tables behind them. Main statement: `Query.exists_confined`.
-/

set_option autoImplicit false

namespace QueryGate

namespace Query

/-- Every name of the query is one that the whitelist allows on the table or, behind a relation
that the table declares, on the table that the relation leads to. -/
structure Confined (w : Whitelist) (t : Table) (q : Query) : Prop where
  table : w.table? (.text q.table) = some t
  projection_ne_nil : q.projection ≠ []
  projection : ∀ f ∈ q.projection, Value.text f ∈ t.fields
  fields : ∀ g ∈ q.predicate.fields, Value.text g.1 ∈ t.fields
  relations : ∀ g ∈ q.predicate.relations, ∃ r target, t.relation? (.text g.1) = some r ∧
    w.table? r.table = some target ∧ ∀ c ∈ g.2, Value.text c.1 ∈ target.fields
  relationKeys : Assoc.keys q.relationProjection = Assoc.keys q.predicate.relations
  identifying : ∀ p ∈ q.relationProjection, ∃ r, t.relation? (.text p.1) = some r ∧
    p.2 = r.identifying
  operators : ∀ c ∈ q.predicate.conditions, c.op ∈ Operator.names
  limit : w.Permits q.limit

end Query

theorem Operator.name_mem_names (op : Operator) : op.name ∈ names := by
  cases op <;> simp [names, all]

namespace Predicate

variable {filters : List Filter}

theorem op_mem_names {c : Condition} (hc : c ∈ (ofFilters filters).conditions) :
    c.op ∈ Operator.names := by
  rw [conditions, List.mem_append, List.mem_flatMap, List.mem_flatMap] at hc
  have hfilter : ∃ f : Filter, f.condition = c := by
    rcases hc with ⟨g, hg, hmem⟩ | ⟨r, hr, hmem⟩
    · rw [field_eq hg] at hmem
      obtain ⟨f, -, hf⟩ := List.mem_map.mp hmem
      exact ⟨f, hf⟩
    · obtain ⟨g, hg, hmem⟩ := List.mem_flatMap.mp hmem
      rw [relation_eq hr hg] at hmem
      obtain ⟨f, -, hf⟩ := List.mem_map.mp hmem
      exact ⟨f, hf⟩
  obtain ⟨f, rfl⟩ := hfilter
  exact f.op.name_mem_names

variable {w : Whitelist} {t : Table} (h : ∀ f ∈ filters, w.AllowsPath t f.path)
include h

theorem allowed_of_field {g : String × List Condition} (hg : g ∈ (ofFilters filters).fields) :
    Value.text g.1 ∈ t.fields := by
  obtain ⟨f, hf, hpath⟩ := exists_filter_of_field hg
  have hallows := h f hf
  rwa [hpath] at hallows

/-- One relation stands behind all columns of a group: the group is not empty, and the table
declares at most one relation of a name. -/
theorem allowed_of_relation {r : String × Conditions} (hr : r ∈ (ofFilters filters).relations) :
    ∃ rel target, t.relation? (.text r.1) = some rel ∧ w.table? rel.table = some target ∧
      ∀ g ∈ r.2, Value.text g.1 ∈ target.fields := by
  have hallows : ∀ g ∈ r.2, w.AllowsPath t ⟨some r.1, g.1⟩ := by
    intro g hg
    obtain ⟨f, hf, hpath⟩ := exists_filter_of_relation hr hg
    exact hpath ▸ h f hf
  obtain ⟨g, hg⟩ := List.exists_mem_of_ne_nil _ ((grouped_ofFilters filters).relations r hr).2
  obtain ⟨rel, target, hrel, htarget, -⟩ := hallows g hg
  refine ⟨rel, target, hrel, htarget, ?_⟩
  intro g' hg'
  obtain ⟨rel', target', hrel', htarget', hmem⟩ := hallows g' hg'
  rw [hrel, Option.some.injEq] at hrel'
  subst hrel'
  rw [htarget, Option.some.injEq] at htarget'
  exact htarget' ▸ hmem

end Predicate

namespace Query

theorem identifying_eq {table : Table} {relation : String} {r : Relation}
    (h : table.relation? (.text relation) = some r) :
    identifying (some table) relation = r.identifying := by
  simp [identifying, h]

/-- Every name of a query compiled from an accepted spec is whitelisted. -/
theorem exists_confined {doc raw : Value} {w : Whitelist} {s : Spec}
    (hw : Whitelist.ofDocument doc = .ok w) (hs : w.validate raw = .ok s) :
    ∃ t, (ofSpec w s).Confined w t := by
  have hdescribes := Whitelist.validate_eq_ok.mp hs
  obtain ⟨t, ht⟩ := Option.isSome_iff_exists.mp hdescribes.declared
  have hpaths : ∀ f ∈ s.filters, w.AllowsPath t f.path := by
    intro f hf
    rw [hdescribes.filters] at hf
    exact (Whitelist.allowsPath_of_mem_sanitizeFilters ht hf).1
  have hfields : ∀ f ∈ s.fields, Value.text f ∈ t.fields := by
    intro f hf
    apply Whitelist.mem_fields_of_mem_keptFields ht
    rw [← hdescribes.fields]
    exact List.mem_map_of_mem hf
  have hlimit : w.Permits s.limit := by
    rw [hdescribes.limit]
    exact (Whitelist.bounded_of_ofDocument hw).permits_sanitizeLimit _
  refine ⟨t, ht, hdescribes.fields_ne_nil, hfields, ?_, ?_, keys_relationProjection w s, ?_, ?_,
    hlimit⟩
  · exact fun g hg => Predicate.allowed_of_field hpaths hg
  · exact fun g hg => Predicate.allowed_of_relation hpaths hg
  · intro p hp
    obtain ⟨name, hname, rfl⟩ := List.mem_map.mp hp
    obtain ⟨g, hg, rfl⟩ := List.mem_map.mp hname
    obtain ⟨r, -, hr, -⟩ := Predicate.allowed_of_relation hpaths hg
    exact ⟨r, hr, by rw [ht]; exact identifying_eq hr⟩
  · exact fun c hc => Predicate.op_mem_names hc

/-- A request that asks for more than it may have: an unknown field, a list in place of one, a
filter with an unknown operator and a limit beyond the greatest. -/
def greedyRequest : Value :=
  .object [("action", .text "select"), ("table", .text "Blog"),
    ("fields", .list [.text "password", .list [.text "id"], .text "title"]),
    ("filters", .list [
      .object [("field", .text "user.username"), ("op", .text "contains"), ("value", .text "x")],
      .object [("field", .text "title"), ("op", .text "or 1=1"), ("value", .text "x")]]),
    ("limit", .int 1000000)]

def grantedSpec : Spec := ⟨"Blog", ["title"], [⟨"user.username", .contains, .text "x"⟩], 100⟩

theorem validate_greedyRequest : Whitelist.standard.validate greedyRequest = .ok grantedSpec :=
  Whitelist.validate_eq_ok.mpr
    ⟨by cbv, by cbv, by cbv, by cbv, List.cons_ne_nil _ _, by cbv, by cbv⟩

theorem exists_confined_greedyRequest :
    Whitelist.ofDocument Whitelist.standardDocument = .ok Whitelist.standard ∧
      Whitelist.standard.validate greedyRequest = .ok grantedSpec ∧
      ∃ t, (ofSpec Whitelist.standard grantedSpec).Confined Whitelist.standard t :=
  ⟨Whitelist.ofDocument_standardDocument, validate_greedyRequest,
    exists_confined Whitelist.ofDocument_standardDocument validate_greedyRequest⟩

end Query

end QueryGate
