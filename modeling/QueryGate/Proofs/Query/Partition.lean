import Mathlib.Data.List.Induction
import QueryGate.Proofs.Query.Grouping
import QueryGate.Proofs.Whitelist.Path

/-!
# Compiling partitions the filters

Every filter of a spec is in one group of the compiled query, the group of its field name, and the
groups stand in the order in which their names first came. Main statement:
`Query.partitions_ofSpec`. One more filter changes the conditions behind its own relation only
(`Predicate.conditionsBehind_add`); the orders and the number of conditions follow by induction from
the last filter.
-/

set_option autoImplicit false

namespace QueryGate

namespace Predicate

theorem ofFilters_append (filters : List Filter) (f : Filter) :
    ofFilters (filters ++ [f]) = (ofFilters filters).add f := by
  rw [ofFilters, List.foldl_append]
  rfl

theorem conditionsBehind_add (p : Predicate) (f : Filter) (relation : Option String) :
    (p.add f).conditionsBehind relation =
      if f.path.relation = relation then
        append f.path.column f.condition (p.conditionsBehind relation)
      else p.conditionsBehind relation := by
  rcases hpath : f.path with ⟨_ | own, column⟩
  · rw [add_of_own hpath]
    cases relation with
    | none => simp [conditionsBehind]
    | some relation => simp [conditionsBehind]
  · rw [add_of_related hpath]
    cases relation with
    | none => simp [conditionsBehind]
    | some relation =>
      by_cases hown : own = relation
      · simp [conditionsBehind, Assoc.get?_adjust, hown]
      · simp [conditionsBehind, Assoc.get?_adjust, hown, Ne.symm hown]

/-- The columns that filters name behind a relation, or on the table itself, in their order. -/
def columnsBehind (filters : List Filter) (relation : Option String) : List String :=
  (filters.filter (·.path.relation = relation)).map (·.path.column)

theorem keys_conditionsBehind (filters : List Filter) (relation : Option String) :
    Assoc.keys ((ofFilters filters).conditionsBehind relation) =
      (columnsBehind filters relation).eraseDups := by
  induction filters using List.reverseRecOn with
  | nil => cases relation <;> rfl
  | append_singleton filters f ih =>
    rw [ofFilters_append, conditionsBehind_add]
    by_cases hf : f.path.relation = relation
    · have hcolumns : columnsBehind (filters ++ [f]) relation =
          columnsBehind filters relation ++ [f.path.column] := by
        simp [columnsBehind, hf]
      rw [if_pos hf, hcolumns]
      exact Assoc.keys_adjust_eraseDups f.path.column [] (· ++ [f.condition]) ih
    · have hcolumns : columnsBehind (filters ++ [f]) relation = columnsBehind filters relation := by
        simp [columnsBehind, hf]
      rw [if_neg hf, hcolumns, ih]

theorem keys_relations (filters : List Filter) :
    Assoc.keys (ofFilters filters).relations =
      (filters.filterMap (·.path.relation)).eraseDups := by
  induction filters using List.reverseRecOn with
  | nil => rfl
  | append_singleton filters f ih =>
    rw [ofFilters_append, List.filterMap_append]
    rcases hpath : f.path with ⟨_ | relation, column⟩
    · rw [add_of_own hpath]
      simpa [hpath] using ih
    · rw [add_of_related hpath]
      simpa [hpath] using Assoc.keys_adjust_eraseDups relation []
        (append column f.condition) ih

theorem append_perm (column : String) (c : Condition) (cs : Conditions) :
    ((append column c cs).flatMap (·.2)).Perm (cs.flatMap (·.2) ++ [c]) :=
  Assoc.flatMap_adjust_perm (fun group => group) (fun _ => .refl _) rfl cs

theorem conditions_add_perm (p : Predicate) (f : Filter) :
    (p.add f).conditions.Perm (p.conditions ++ [f.condition]) := by
  unfold conditions
  rcases hpath : f.path with ⟨_ | relation, column⟩
  · rw [add_of_own hpath]
    have hown := (append_perm column f.condition p.fields).append_right
      (p.relations.flatMap fun r => r.2.flatMap (·.2))
    refine hown.trans ?_
    rw [List.append_assoc, List.append_assoc]
    exact List.perm_append_comm.append_left _
  · rw [add_of_related hpath]
    have hbehind : ((Assoc.adjust relation [] (append column f.condition) p.relations).flatMap
        fun r => r.2.flatMap (·.2)).Perm
          ((p.relations.flatMap fun r => r.2.flatMap (·.2)) ++ [f.condition]) :=
      Assoc.flatMap_adjust_perm (fun cs : Conditions => cs.flatMap (·.2))
        (append_perm column f.condition) rfl p.relations
    rw [List.append_assoc]
    exact hbehind.append_left _

theorem conditions_perm (filters : List Filter) :
    (ofFilters filters).conditions.Perm (filters.map Filter.condition) := by
  induction filters using List.reverseRecOn with
  | nil => exact .refl _
  | append_singleton filters f ih =>
    rw [ofFilters_append, List.map_append]
    exact (conditions_add_perm _ f).trans (ih.append_right _)

theorem get?_conditionsBehind (filters : List Filter) (relation : Option String)
    (column : String) :
    Assoc.get? column ((ofFilters filters).conditionsBehind relation) =
      if ∃ f ∈ filters, f.path = ⟨relation, column⟩ then
        some ((filters.filter (·.path = ⟨relation, column⟩)).map Filter.condition)
      else none := by
  have hview := getD_conditionsBehind filters relation column
  cases hget : Assoc.get? column ((ofFilters filters).conditionsBehind relation) with
  | none =>
    have hnone : filters.filter (·.path = ⟨relation, column⟩) = [] := by
      simpa [hget] using hview.symm
    have habsent : ¬∃ f ∈ filters, f.path = ⟨relation, column⟩ := by
      rintro ⟨f, hf, hpath⟩
      have hmem : f ∈ filters.filter (·.path = ⟨relation, column⟩) :=
        List.mem_filter.mpr ⟨hf, decide_eq_true hpath⟩
      rw [hnone] at hmem
      cases hmem
    rw [if_neg habsent]
  | some group =>
    have hgroup : group = (filters.filter (·.path = ⟨relation, column⟩)).map Filter.condition := by
      simpa [hget] using hview
    have hgrouped := grouped_conditionsBehind (grouped_ofFilters filters) relation
    have hne : group ≠ [] := hgrouped.nonempty _ (Assoc.mem_of_get? hget)
    rw [hgroup, ne_eq, List.map_eq_nil_iff] at hne
    obtain ⟨f, hf⟩ := List.exists_mem_of_ne_nil _ hne
    obtain ⟨hmem, hpath⟩ := List.mem_filter.mp hf
    rw [if_pos ⟨f, hmem, of_decide_eq_true hpath⟩, hgroup]

end Predicate

/-- The conditions of the filters with a field name, in their order; none without such a filter. -/
def Spec.group? (s : Spec) (name : String) : Option (List Condition) :=
  if ∃ f ∈ s.filters, f.field = name then
    some ((s.filters.filter (·.field = name)).map Filter.condition)
  else none

theorem Filter.path_inj {f g : Filter} : f.path = g.path ↔ f.field = g.field :=
  FieldPath.ofName_inj

namespace Query

/-- The query holds the filters of the spec in groups by field name, each filter once, names and
filters in the order of the spec. -/
structure Partitions (s : Spec) (q : Query) : Prop where
  own : ∀ column, '.' ∉ column.toList → Assoc.get? column q.predicate.fields = s.group? column
  related : ∀ relation column, '.' ∉ relation.toList →
    (Assoc.get? relation q.predicate.relations).bind (Assoc.get? column) =
      s.group? (relation ++ "." ++ column)
  ownKeys : Assoc.keys q.predicate.fields = (Predicate.columnsBehind s.filters none).eraseDups
  relationKeys : Assoc.keys q.predicate.relations =
    (s.filters.filterMap (·.path.relation)).eraseDups
  relatedKeys : ∀ r ∈ q.predicate.relations,
    Assoc.keys r.2 = (Predicate.columnsBehind s.filters (some r.1)).eraseDups
  conditions : q.predicate.conditions.Perm (s.filters.map Filter.condition)
  count : q.predicate.conditions.length = s.filters.length
  relationProjection : Assoc.keys q.relationProjection = Assoc.keys q.predicate.relations
  projection : q.projection = s.fields
  limit : q.limit = s.limit

theorem get?_conditionsBehind_ofName (s : Spec) {name : String} {relation : Option String}
    {column : String} (h : FieldPath.ofName name = ⟨relation, column⟩) :
    Assoc.get? column ((Predicate.ofFilters s.filters).conditionsBehind relation) =
      s.group? name := by
  have hfield : ∀ f : Filter, f.path = ⟨relation, column⟩ ↔ f.field = name := by
    intro f
    rw [← h]
    exact FieldPath.ofName_inj
  simp only [Predicate.get?_conditionsBehind, hfield, Spec.group?]

/-- Compiling loses, repeats and moves no filter, and cutting a field name loses nothing. -/
theorem partitions_ofSpec (w : Whitelist) (s : Spec) :
    Partitions s (ofSpec w s) ∧ (∀ name, (FieldPath.ofName name).name = name) ∧
      ∀ f g : Filter, f.path = g.path ↔ f.field = g.field := by
  have hgrouped := Predicate.grouped_ofFilters s.filters
  refine ⟨?_, FieldPath.name_ofName, fun _ _ => Filter.path_inj⟩
  constructor
  case own =>
    intro column hdot
    exact get?_conditionsBehind_ofName s (FieldPath.ofName_eq_own.mpr ⟨rfl, hdot⟩)
  case related =>
    intro relation column hdot
    rw [← get?_conditionsBehind_ofName s (FieldPath.ofName_eq_related.mpr ⟨rfl, hdot⟩)]
    simp only [ofSpec, Predicate.conditionsBehind]
    cases Assoc.get? relation (Predicate.ofFilters s.filters).relations <;> rfl
  case ownKeys => exact Predicate.keys_conditionsBehind s.filters none
  case relationKeys => exact Predicate.keys_relations s.filters
  case relatedKeys =>
    intro r hr
    have hget := Assoc.get?_of_mem hgrouped.nodup hr
    have hkeys := Predicate.keys_conditionsBehind s.filters (some r.1)
    rwa [Predicate.conditionsBehind, hget] at hkeys
  case conditions => exact Predicate.conditions_perm s.filters
  case count =>
    have hlength := (Predicate.conditions_perm s.filters).length_eq
    rwa [List.length_map] at hlength
  case relationProjection => exact keys_relationProjection w s
  case projection => rfl
  case limit => rfl

end Query

end QueryGate
