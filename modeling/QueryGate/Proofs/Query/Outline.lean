import QueryGate.Proofs.Query.Answer

/-!
# What a selection owes to the filters

Specs of one outline differ in their filters only and cross the same relations. Main statement:
`Select.Asks.of_outline`: their queries have the same selection up to the clauses, so that whatever
is said of two such selections is said of two lists of clauses.
-/

set_option autoImplicit false

namespace QueryGate

def Spec.Crosses (s : Spec) (relation : String) : Prop :=
  ∃ f ∈ s.filters, f.path.relation = some relation

/-- The specs differ in their filters only, and their filters cross the same relations. -/
structure Spec.SameOutline (s s' : Spec) : Prop where
  table : s.table = s'.table
  fields : s.fields = s'.fields
  limit : s.limit = s'.limit
  crosses : ∀ relation, s.Crosses relation ↔ s'.Crosses relation

namespace Select

theorem relation_of_foldlM {identifying : List (String × List Value)}
    {groups : List (String × Conditions)} {s s' : Select}
    (h : groups.foldlM (addRelation identifying) s = .ok s') :
    ∀ g ∈ groups, g.1 = authorRelation := by
  induction groups generalizing s with
  | nil => simp
  | cons g groups ih =>
    rw [List.foldlM_cons] at h
    obtain ⟨next, hnext, hrest⟩ := Attempt.bind_eq_ok.mp h
    have hg : g.1 = authorRelation := by
      by_contra hother
      rw [addRelation, if_neg hother] at hnext
      cases hnext
    exact List.forall_mem_cons.mpr ⟨hg, ih hrest⟩

theorem relation_of_ofQuery {q : Query} {s : Select} (h : ofQuery q = .ok s) :
    ∀ g ∈ q.predicate.relations, g.1 = authorRelation := by
  obtain ⟨outputs, -, h⟩ := Attempt.bind_eq_ok.mp h
  obtain ⟨clauses, -, h⟩ := Attempt.bind_eq_ok.mp h
  exact relation_of_foldlM h

end Select

namespace Query

variable {w : Whitelist} {s s' : Spec}

theorem crossesAuthorOnly_of_outline (h : s.SameOutline s')
    (hq : ∀ g ∈ (ofSpec w s).predicate.relations, g.1 = Select.authorRelation) :
    (ofSpec w s').CrossesAuthorOnly := by
  apply crossesAuthorOnly_ofSpec
  intro g hg
  have hcrosses : s'.Crosses g.1 := Predicate.mem_keys_relations.mp (Assoc.mem_keys hg)
  have hkey : g.1 ∈ Assoc.keys (ofSpec w s).predicate.relations :=
    Predicate.mem_keys_relations.mpr ((h.crosses g.1).mpr hcrosses)
  obtain ⟨g', hg', hname⟩ := List.mem_map.mp hkey
  rw [← hname]
  exact hq g' hg'

theorem crossesAuthor_eq_of_outline (h : s.SameOutline s') :
    (ofSpec w s).crossesAuthor = (ofSpec w s').crossesAuthor := by
  rw [Bool.eq_iff_iff, crossesAuthor_iff, crossesAuthor_iff]
  exact h.crosses Select.authorRelation

theorem authorColumns_eq_of_outline (h : s.SameOutline s') :
    (ofSpec w s).authorColumns = (ofSpec w s').authorColumns := by
  have hcrosses := crossesAuthor_eq_of_outline (w := w) h
  by_cases hauthor : (ofSpec w s).crossesAuthor
  · rw [authorColumns_ofSpec hauthor, authorColumns_ofSpec (hcrosses ▸ hauthor), h.table]
  · rw [authorColumns, if_neg hauthor, authorColumns, if_neg (hcrosses ▸ hauthor)]

end Query

theorem Select.Asks.of_outline {w : Whitelist} {s s' : Spec} {selection : Select}
    (hasks : Asks (Query.ofSpec w s) selection) (h : s.SameOutline s') {own author : List Clause}
    (hown : clausesOf baseColumn (Query.ofSpec w s').predicate.fields = .ok own)
    (hauthor : clausesOf authorColumn (Query.ofSpec w s').authorConditions = .ok author) :
    Asks (Query.ofSpec w s') { selection with clauses := own ++ author } where
  outputs := by
    have houtputs := hasks.outputs
    rwa [Query.ofSpec, h.fields] at houtputs
  nested := by
    rw [← Query.authorColumns_eq_of_outline h]
    exact hasks.nested
  joinsAuthor := hasks.joinsAuthor.trans (Query.crossesAuthor_eq_of_outline h)
  clauses := ⟨own, author, hown, hauthor, rfl⟩
  limit := hasks.limit.trans h.limit

end QueryGate
