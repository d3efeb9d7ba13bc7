import QueryGate.Proofs.Assoc
import QueryGate.Proofs.Whitelist.Path
import QueryGate.Query.Basic

/-!
# Grouping filters

`Predicate.conditionsAt` is the view of a predicate by field path. Main statement:
`Predicate.conditionsAt_ofFilters`, the conditions at a path are those of the filters with that
path, in their order. No group is empty and no key is there twice (`Predicate.grouped_ofFilters`),
so that membership in a group and the view agree.
-/

set_option autoImplicit false

namespace QueryGate

def Filter.condition (f : Filter) : Condition := ⟨f.op.name, f.value⟩

theorem Filter.isRelation_eq (f : Filter) : f.isRelation = f.path.relation.isSome := by
  rw [isRelation, Bool.eq_iff_iff, List.contains_iff_mem]
  rcases hpath : f.path with ⟨_ | relation, column⟩
  · have hdot := (FieldPath.ofName_eq_own.mp hpath).2
    simp [hdot]
  · have hname := (FieldPath.ofName_eq_related.mp hpath).1
    simp [hname]

structure Conditions.Grouped (cs : Conditions) : Prop where
  nodup : (Assoc.keys cs).Nodup
  nonempty : ∀ g ∈ cs, g.2 ≠ []

namespace Predicate

def conditionsAt (p : Predicate) : FieldPath → List Condition
  | ⟨none, column⟩ => (Assoc.get? column p.fields).getD []
  | ⟨some relation, column⟩ =>
    (Assoc.get? column ((Assoc.get? relation p.relations).getD [])).getD []

def conditionsBehind (p : Predicate) : Option String → Conditions
  | none => p.fields
  | some relation => (Assoc.get? relation p.relations).getD []

def conditions (p : Predicate) : List Condition :=
  p.fields.flatMap (·.2) ++ p.relations.flatMap fun r => r.2.flatMap (·.2)

structure Grouped (p : Predicate) : Prop where
  fields : Conditions.Grouped p.fields
  nodup : (Assoc.keys p.relations).Nodup
  relations : ∀ r ∈ p.relations, Conditions.Grouped r.2 ∧ r.2 ≠ []

theorem append_ne_nil (column : String) (c : Condition) (cs : Conditions) :
    append column c cs ≠ [] := by
  cases cs with
  | nil => simp [append, Assoc.adjust]
  | cons g rest =>
    simp only [append, Assoc.adjust]
    split <;> simp

theorem grouped_append {cs : Conditions} (h : cs.Grouped) (column : String) (c : Condition) :
    Conditions.Grouped (append column c cs) := by
  refine ⟨Assoc.nodup_keys_adjust _ _ _ h.nodup, ?_⟩
  intro g hg
  rcases Assoc.mem_adjust _ _ _ hg with hold | rfl | ⟨conds, -, rfl⟩
  · exact h.nonempty g hold
  · simp
  · simp

theorem grouped_nil : Conditions.Grouped [] := ⟨List.nodup_nil, by simp⟩

theorem grouped_conditionsBehind {p : Predicate} (h : p.Grouped) (relation : Option String) :
    Conditions.Grouped (p.conditionsBehind relation) := by
  cases relation with
  | none => exact h.fields
  | some relation =>
    rw [conditionsBehind]
    cases hget : Assoc.get? relation p.relations with
    | none => exact grouped_nil
    | some cs => exact (h.relations _ (Assoc.mem_of_get? hget)).1

theorem add_of_own {p : Predicate} {f : Filter} {column : String} (h : f.path = ⟨none, column⟩) :
    p.add f = { p with fields := append column f.condition p.fields } := by
  have hrelation : f.isRelation = false := by
    rw [f.isRelation_eq, h]
    rfl
  obtain rfl := (FieldPath.ofName_eq_own.mp h).1
  rw [add, hrelation]
  rfl

theorem add_of_related {p : Predicate} {f : Filter} {relation column : String}
    (h : f.path = ⟨some relation, column⟩) : p.add f =
      { p with
        relations := Assoc.adjust relation [] (append column f.condition) p.relations } := by
  have hrelation : f.isRelation = true := by
    rw [f.isRelation_eq, h]
    rfl
  rw [add, hrelation, h]
  rfl

theorem grouped_add {p : Predicate} (h : p.Grouped) (f : Filter) : (p.add f).Grouped := by
  unfold add
  split
  · exact ⟨grouped_append h.fields _ _, h.nodup, h.relations⟩
  · refine ⟨h.fields, Assoc.nodup_keys_adjust _ _ _ h.nodup, ?_⟩
    intro r hr
    rcases Assoc.mem_adjust _ _ _ hr with hold | rfl | ⟨cs, hcs, rfl⟩
    · exact h.relations r hold
    · exact ⟨grouped_append grouped_nil _ _, append_ne_nil _ _ _⟩
    · exact ⟨grouped_append (h.relations _ hcs).1 _ _, append_ne_nil _ _ _⟩

theorem conditionsAt_add (p : Predicate) (f : Filter) (path : FieldPath) :
    (p.add f).conditionsAt path =
      p.conditionsAt path ++ if f.path = path then [f.condition] else [] := by
  obtain ⟨relation, column⟩ := path
  rcases hpath : f.path with ⟨_ | rel, col⟩
  · rw [add_of_own hpath]
    cases relation with
    | none =>
      by_cases hc : col = column
      · simp [conditionsAt, append, Assoc.get?_adjust, hc]
      · simp [conditionsAt, append, Assoc.get?_adjust, hc, Ne.symm hc]
    | some rel => simp [conditionsAt]
  · rw [add_of_related hpath]
    cases relation with
    | none => simp [conditionsAt]
    | some rel' =>
      by_cases hr : rel = rel'
      · by_cases hc : col = column
        · simp [conditionsAt, append, Assoc.get?_adjust, hr, hc]
        · simp [conditionsAt, append, Assoc.get?_adjust, hr, hc, Ne.symm hc]
      · simp [conditionsAt, Assoc.get?_adjust, hr, Ne.symm hr]

theorem grouped_ofFilters (filters : List Filter) : (ofFilters filters).Grouped := by
  have run : ∀ (fs : List Filter) (p : Predicate), p.Grouped → (fs.foldl add p).Grouped := by
    intro fs
    induction fs with
    | nil => exact fun _ h => h
    | cons f fs ih => exact fun p h => ih _ (grouped_add h f)
  exact run filters empty ⟨grouped_nil, List.nodup_nil, by simp [empty]⟩

theorem conditionsAt_ofFilters (filters : List Filter) (path : FieldPath) :
    (ofFilters filters).conditionsAt path =
      (filters.filter (·.path = path)).map Filter.condition := by
  have run : ∀ (fs : List Filter) (p : Predicate), (fs.foldl add p).conditionsAt path =
      p.conditionsAt path ++ (fs.filter (·.path = path)).map Filter.condition := by
    intro fs
    induction fs with
    | nil => simp
    | cons f fs ih =>
      intro p
      rw [List.foldl_cons, ih, conditionsAt_add, List.append_assoc]
      by_cases hf : f.path = path <;> simp [hf]
  have hempty : empty.conditionsAt path = [] := by
    obtain ⟨_ | _, column⟩ := path <;> rfl
  rw [ofFilters, run, hempty, List.nil_append]

theorem getD_conditionsBehind (filters : List Filter) (relation : Option String) (column : String) :
    (Assoc.get? column ((ofFilters filters).conditionsBehind relation)).getD [] =
      (filters.filter (·.path = ⟨relation, column⟩)).map Filter.condition := by
  rw [← conditionsAt_ofFilters]
  cases relation <;> rfl

section Membership

variable {p : Predicate} (hp : p.Grouped)
include hp

theorem Grouped.conditionsAt_field {g : String × List Condition} (hg : g ∈ p.fields) :
    p.conditionsAt ⟨none, g.1⟩ = g.2 := by
  simp [conditionsAt, Assoc.get?_of_mem hp.fields.nodup hg]

theorem Grouped.conditionsAt_relation {r : String × Conditions} (hr : r ∈ p.relations)
    {g : String × List Condition} (hg : g ∈ r.2) :
    p.conditionsAt ⟨some r.1, g.1⟩ = g.2 := by
  have hrel := Assoc.get?_of_mem hp.nodup hr
  have hgroup := Assoc.get?_of_mem (hp.relations r hr).1.nodup hg
  simp [conditionsAt, hrel, hgroup]

end Membership

theorem mem_relation_of_conditionsAt {p : Predicate} {relation column : String} {c : Condition}
    (h : c ∈ p.conditionsAt ⟨some relation, column⟩) :
    ∃ r ∈ p.relations, r.1 = relation ∧ ∃ g ∈ r.2, g.1 = column ∧ c ∈ g.2 := by
  cases hrel : Assoc.get? relation p.relations with
  | none => simp [conditionsAt, hrel] at h
  | some cs =>
    cases hget : Assoc.get? column cs with
    | none => simp [conditionsAt, hrel, hget] at h
    | some conds =>
      exact ⟨_, Assoc.mem_of_get? hrel, rfl, _, Assoc.mem_of_get? hget, rfl,
        by simpa [conditionsAt, hrel, hget] using h⟩

section Filters

variable {filters : List Filter}

theorem field_eq {g : String × List Condition} (hg : g ∈ (ofFilters filters).fields) :
    g.2 = (filters.filter (·.path = ⟨none, g.1⟩)).map Filter.condition := by
  rw [← conditionsAt_ofFilters, (grouped_ofFilters filters).conditionsAt_field hg]

theorem relation_eq {r : String × Conditions} (hr : r ∈ (ofFilters filters).relations)
    {g : String × List Condition} (hg : g ∈ r.2) :
    g.2 = (filters.filter (·.path = ⟨some r.1, g.1⟩)).map Filter.condition := by
  rw [← conditionsAt_ofFilters, (grouped_ofFilters filters).conditionsAt_relation hr hg]

theorem exists_filter_of_field {g : String × List Condition}
    (hg : g ∈ (ofFilters filters).fields) : ∃ f ∈ filters, f.path = ⟨none, g.1⟩ := by
  have hne := (grouped_ofFilters filters).fields.nonempty g hg
  rw [field_eq hg, ne_eq, List.map_eq_nil_iff] at hne
  obtain ⟨f, hf⟩ := List.exists_mem_of_ne_nil _ hne
  exact ⟨f, by simpa using hf⟩

theorem exists_filter_of_relation {r : String × Conditions}
    (hr : r ∈ (ofFilters filters).relations) {g : String × List Condition} (hg : g ∈ r.2) :
    ∃ f ∈ filters, f.path = ⟨some r.1, g.1⟩ := by
  have hne := ((grouped_ofFilters filters).relations r hr).1.nonempty g hg
  rw [relation_eq hr hg, ne_eq, List.map_eq_nil_iff] at hne
  obtain ⟨f, hf⟩ := List.exists_mem_of_ne_nil _ hne
  exact ⟨f, by simpa using hf⟩

theorem mem_keys_relations {relation : String} :
    relation ∈ Assoc.keys (ofFilters filters).relations ↔
      ∃ f ∈ filters, f.path.relation = some relation := by
  constructor
  · intro h
    obtain ⟨r, hr, rfl⟩ := List.mem_map.mp h
    obtain ⟨g, hg⟩ := List.exists_mem_of_ne_nil _ ((grouped_ofFilters filters).relations r hr).2
    obtain ⟨f, hf, hpath⟩ := exists_filter_of_relation hr hg
    exact ⟨f, hf, by rw [hpath]⟩
  · rintro ⟨f, hf, hrelation⟩
    have hpath : f.path = ⟨some relation, f.path.column⟩ := by rw [← hrelation]
    have hcondition : f.condition ∈
        (ofFilters filters).conditionsAt ⟨some relation, f.path.column⟩ := by
      rw [conditionsAt_ofFilters, ← hpath]
      exact List.mem_map_of_mem (List.mem_filter.mpr ⟨hf, by simp⟩)
    obtain ⟨r, hr, rfl, -⟩ := mem_relation_of_conditionsAt hcondition
    exact Assoc.mem_keys hr

end Filters

end Predicate

namespace Query

theorem keys_relationProjection (w : Whitelist) (s : Spec) :
    Assoc.keys (ofSpec w s).relationProjection =
      Assoc.keys (ofSpec w s).predicate.relations := by
  simp [ofSpec, Assoc.keys]

end Query

end QueryGate
