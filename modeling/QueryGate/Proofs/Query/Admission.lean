import QueryGate.Proofs.Query.Storable

/-!
# What a compiled query admits

A compiled query admits the blogs that have, under the path of each filter, a cell of which the
condition of the filter holds. Main statement: `Query.admits_iff_cells`.
-/

set_option autoImplicit false

namespace QueryGate

def FieldPath.cell? (p : FieldPath) (store : Store) (b : Blog) : Option Cell :=
  match p.relation with
  | none => b.cell? p.column
  | some _ => (store.author? b).bind (·.cell? p.column)

theorem Predicate.hold_conditionsBehind (filters : List Filter) (relation : Option String)
    (cell? : String → Option Cell) :
    ((ofFilters filters).conditionsBehind relation).hold cell? ↔
      ∀ f ∈ filters, f.path.relation = relation →
        (cell? f.path.column).any f.condition.holds := by
  rw [Conditions.hold, List.all_eq_true]
  constructor
  · rintro h f hf rfl
    exact h (f.path.column, f.condition) (mem_flat_conditionsBehind.mpr ⟨f, hf, rfl, rfl⟩)
  · intro h p hp
    obtain ⟨f, hf, hpath, hcondition⟩ := mem_flat_conditionsBehind.mp hp
    have hholds := h f hf (by rw [hpath])
    rwa [hpath, hcondition] at hholds

namespace Query

variable {w : Whitelist} {s : Spec} {store : Store} {b : Blog}

/-- Where the conditions on the author hold, each filter behind the relation finds its cell. -/
theorem author_holds_iff : (!(ofSpec w s).crossesAuthor || (store.author? b).any fun u =>
      (ofSpec w s).authorConditions.hold u.cell?) ↔
    ∀ f ∈ s.filters, f.path.relation = some Select.authorRelation →
      ((store.author? b).bind (·.cell? f.path.column)).any f.condition.holds := by
  cases hcrosses : (ofSpec w s).crossesAuthor with
  | false =>
    refine iff_of_true rfl ?_
    intro f hf hrelated
    cases hcrosses.symm.trans (crossesAuthor_iff.mpr ⟨f, hf, hrelated⟩)
  | true =>
    cases store.author? b with
    | none =>
      obtain ⟨f, hf, hrelated⟩ := crossesAuthor_iff.mp hcrosses
      exact iff_of_false Bool.false_ne_true fun h => Bool.false_ne_true (h f hf hrelated)
    | some u => exact Predicate.hold_conditionsBehind s.filters (some Select.authorRelation) u.cell?

theorem admits_iff_cells (hrelation : ∀ f ∈ s.filters, f.path.relation = none ∨
      f.path.relation = some Select.authorRelation) :
    (ofSpec w s).admits store b ↔
      ∀ f ∈ s.filters, (f.path.cell? store b).any f.condition.holds := by
  have hown : (ofSpec w s).predicate.fields.hold b.cell? ↔ ∀ f ∈ s.filters,
      f.path.relation = none → (b.cell? f.path.column).any f.condition.holds :=
    Predicate.hold_conditionsBehind s.filters none b.cell?
  rw [admits, Bool.and_eq_true, hown, author_holds_iff]
  constructor
  · rintro ⟨hnone, hsome⟩ f hf
    unfold FieldPath.cell?
    rcases hrelation f hf with hrel | hrel
    · rw [hrel]
      exact hnone f hf hrel
    · rw [hrel]
      exact hsome f hf hrel
  · intro h
    refine ⟨fun f hf hrel => ?_, fun f hf hrel => ?_⟩
    all_goals
      have hholds := h f hf
      rw [FieldPath.cell?, hrel] at hholds
      exact hholds

end Query

end QueryGate
