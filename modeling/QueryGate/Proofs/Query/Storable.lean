import QueryGate.Proofs.Query.Answer

/-!
# Which filters the store can take

`Filter.isStorable` decides whether the store can take a filter on blogs. Main statement:
`Query.fits_iff`, a compiled query fits the store when its names do and all its filters can be
taken.
-/

set_option autoImplicit false

namespace QueryGate

def FieldPath.column? (p : FieldPath) : Option Column :=
  match p with
  | ⟨none, column⟩ => columnNamed? blogColumns column
  | ⟨some relation, column⟩ =>
    if relation = Select.authorRelation then columnNamed? userColumns column else none

theorem FieldPath.column?_own {p : FieldPath} (h : p.relation = none) :
    p.column? = columnNamed? blogColumns p.column := by
  obtain ⟨relation, column⟩ := p
  cases h
  rfl

theorem FieldPath.column?_author {p : FieldPath} (h : p.relation = some Select.authorRelation) :
    p.column? = columnNamed? userColumns p.column := by
  obtain ⟨relation, column⟩ := p
  cases h
  rw [FieldPath.column?, if_pos rfl]

/-- Can the store take the filter on blogs? -/
def Filter.isStorable (f : Filter) : Bool :=
  f.path.column?.any fun c => f.op.takes c.kind f.value

namespace Conditions

theorem mem_flat {cs : Conditions} (h : cs.Grouped) {p : String × Condition} :
    p ∈ cs.flat ↔ p.2 ∈ (Assoc.get? p.1 cs).getD [] := by
  unfold flat
  rw [List.mem_flatMap]
  constructor
  · rintro ⟨g, hg, hp⟩
    obtain ⟨cond, hcond, rfl⟩ := List.mem_map.mp hp
    rw [Assoc.get?_of_mem h.nodup hg]
    exact hcond
  · intro hp
    cases hget : Assoc.get? p.1 cs with
    | none => simp [hget] at hp
    | some conds =>
      rw [hget] at hp
      exact ⟨_, Assoc.mem_of_get? hget, List.mem_map.mpr ⟨p.2, hp, rfl⟩⟩

theorem fit_iff {cs : Conditions} (h : cs.Grouped) {columns : List Column} :
    cs.fit columns ↔ ∀ column, ∀ cond ∈ (Assoc.get? column cs).getD [],
      (columnNamed? columns column).any fun c => cond.takes c.kind := by
  rw [fit, List.all_eq_true]
  constructor
  · intro hall column cond hcond
    exact hall (column, cond) ((mem_flat h).mpr hcond)
  · intro hall p hp
    exact hall p.1 p.2 ((mem_flat h).mp hp)

end Conditions

theorem Filter.takes_condition (f : Filter) (kind : ColumnKind) :
    f.condition.takes kind = f.op.takes kind f.value := by
  rw [Filter.condition, Condition.takes, Operator.ofName?_name]
  rfl

namespace Predicate

/-- Behind a relation, or on the table itself, stand the conditions of the filters that cross it. -/
theorem mem_flat_conditionsBehind {filters : List Filter} {relation : Option String}
    {p : String × Condition} : p ∈ ((ofFilters filters).conditionsBehind relation).flat ↔
      ∃ f ∈ filters, f.path = ⟨relation, p.1⟩ ∧ f.condition = p.2 := by
  have hgrouped := grouped_conditionsBehind (grouped_ofFilters filters) relation
  rw [Conditions.mem_flat hgrouped, getD_conditionsBehind]
  simp [and_assoc]

theorem fit_conditionsBehind (filters : List Filter) (relation : Option String)
    (columns : List Column) :
    ((ofFilters filters).conditionsBehind relation).fit columns ↔
      ∀ f ∈ filters, f.path.relation = relation →
        (columnNamed? columns f.path.column).any fun c => f.op.takes c.kind f.value := by
  rw [Conditions.fit_iff (grouped_conditionsBehind (grouped_ofFilters filters) relation)]
  simp only [getD_conditionsBehind, ← Filter.takes_condition]
  constructor
  · intro h f hf hrelation
    refine h f.path.column f.condition (List.mem_map_of_mem (List.mem_filter.mpr ⟨hf, ?_⟩))
    rw [← hrelation]
    exact decide_eq_true rfl
  · intro h column cond hcond
    obtain ⟨f, hf, rfl⟩ := List.mem_map.mp hcond
    obtain ⟨hmem, hpath⟩ := List.mem_filter.mp hf
    have hpath : f.path = ⟨relation, column⟩ := of_decide_eq_true hpath
    have hfits := h f hmem (by rw [hpath])
    rwa [hpath] at hfits

end Predicate

namespace Query

variable {w : Whitelist} {s : Spec}

/-- A compiled query that crosses no relation but the one to the author fits the store when its
names do and all its filters can be taken. -/
theorem fits_iff (hq : ∀ r ∈ (ofSpec w s).predicate.relations, r.1 = Select.authorRelation) :
    (ofSpec w s).Fits ↔ (∀ f ∈ s.fields, (columnNamed? blogColumns f).isSome) ∧
      (∀ v ∈ (ofSpec w s).authorColumns, (v.text?.bind (columnNamed? userColumns)).isSome) ∧
      ∀ f ∈ s.filters, f.isStorable := by
  have hrelation := relation_eq_none_or_author hq
  have hown : (ofSpec w s).predicate.fields.fit blogColumns ↔
      ∀ f ∈ s.filters, f.path.relation = none →
        (columnNamed? blogColumns f.path.column).any fun c => f.op.takes c.kind f.value :=
    Predicate.fit_conditionsBehind s.filters none blogColumns
  have hauthor : (ofSpec w s).authorConditions.fit userColumns ↔
      ∀ f ∈ s.filters, f.path.relation = some Select.authorRelation →
        (columnNamed? userColumns f.path.column).any fun c => f.op.takes c.kind f.value :=
    Predicate.fit_conditionsBehind s.filters (some Select.authorRelation) userColumns
  constructor
  · rintro ⟨hprojection, hfields, hbehind, hcolumns⟩
    refine ⟨hprojection, hcolumns, ?_⟩
    intro f hf
    rw [Filter.isStorable]
    rcases hrelation f hf with hnone | hsome
    · rw [FieldPath.column?_own hnone]
      exact hown.mp hfields f hf hnone
    · rw [FieldPath.column?_author hsome]
      exact hauthor.mp hbehind f hf hsome
  · rintro ⟨hprojection, hcolumns, hstorable⟩
    refine ⟨hprojection, hown.mpr ?_, hauthor.mpr ?_, hcolumns⟩
    · intro f hf hnone
      have hf := hstorable f hf
      rwa [Filter.isStorable, FieldPath.column?_own hnone] at hf
    · intro f hf hsome
      have hf := hstorable f hf
      rwa [Filter.isStorable, FieldPath.column?_author hsome] at hf

end Query

end QueryGate
