import QueryGate.Proofs.Store.Conversion
import QueryGate.Store.Select

/-!
# What a condition asks of a cell

`Operator.takes` decides whether the store can take a value as the operand of an operator on a
column of a kind, and `Operator.holds` is the meaning of the operator there. Main statements:
`Clause.exists_binds_ofCondition`, a clause can be built and bound exactly when the store takes the
operand, and `Clause.holds_of_binds`, it then holds of a row when the condition holds of the cell.
-/

set_option autoImplicit false

namespace QueryGate

namespace Operator

/-- The comparison that the operator makes with its single operand, if it makes one. -/
def comparison? : Operator → Option Comparison
  | .equals => some .equal
  | .contains | .oneOf => none
  | .below => some .less
  | .atMost => some .lessOrEqual
  | .above => some .greater
  | .atLeast => some .greaterOrEqual

/-- Can the store take the value as the operand of the operator on a column of a kind? -/
def takes (op : Operator) (kind : ColumnKind) (v : Value) : Bool :=
  match op with
  | .equals => v.isBindable
  | .contains => true
  | .oneOf =>
    match v.items with
    | .ok (first :: rest) => (first :: rest).all (Value.isMember kind first)
    | .ok [] => true
    | .error _ => false
  | .below | .atMost | .above | .atLeast => v.isComparable

/-- Does the operator hold between a cell and its operand? Nothing equals null, and a cell is in a
list or a text when it equals a member. -/
def holds (op : Operator) (cell : Cell) (v : Value) : Bool :=
  match op with
  | .contains => cell.scalar.like (Clause.containsPattern v.shown)
  | .oneOf =>
    match v.items with
    | .ok (first :: rest) => (first :: rest).any fun u =>
      Comparison.equal.test cell.kind cell.scalar (Value.memberParameter cell.kind first u)
    | _ => false
  | op => op.comparison?.any fun comparison =>
    comparison.test cell.kind cell.scalar v.momentText.parameter

end Operator

namespace Clause

/-- The values of the clause can be converted and handed over, which gives the bound clause. -/
def Binds (clause : Clause) (bound : BoundClause) : Prop :=
  ∃ converted, clause.convert = .ok converted ∧ converted.bind = .ok bound

theorem isInternal_of_convert {clause : Clause} {e : Failure}
    (h : clause.convert = .error e) : e.isInternal := by
  cases clause with
  | compare c comparison v =>
    exact (Value.converts_convertFor _).error (Attempt.map_eq_error.mp h)
  | oneOf c vs =>
    cases vs with
    | nil => nomatch h
    | cons first rest =>
      obtain ⟨v, -, hv⟩ := Attempt.exists_of_mapM_eq_error (Attempt.map_eq_error.mp h)
      exact (Value.converts_memberConversion _ _).error hv
  | _ => nomatch h

theorem isInternal_of_bind {clause : Clause} {e : Failure} (h : clause.bind = .error e) :
    e.isInternal := by
  cases clause with
  | compare c comparison v => exact Value.isInternal_of_toScalar (Attempt.map_eq_error.mp h)
  | oneOf c vs =>
    obtain ⟨v, -, hv⟩ := Attempt.exists_of_mapM_eq_error (Attempt.map_eq_error.mp h)
    exact Value.isInternal_of_toScalar hv
  | _ => nomatch h

theorem binds_compare {c : ColumnRef} {comparison : Comparison} {v : Value}
    {bound : BoundClause} : (Clause.compare c comparison v).Binds bound ↔
      v.isBindable ∧ bound = .compare c comparison v.momentText.parameter := by
  have hconverts := Value.converts_convertFor c.column.kind
  constructor
  · rintro ⟨converted, hconverted, hbind⟩
    obtain ⟨u, hu, rfl⟩ := Attempt.map_eq_ok.mp hconverted
    obtain ⟨x, hx, rfl⟩ := Attempt.map_eq_ok.mp hbind
    have hbindable := Value.isBindable_of_toScalar hx
    have hv := hconverts.accepted hu hbindable
    rw [Value.convertFor_eq_ok hv] at hu
    cases hu
    rw [Value.toScalar_eq_ok hbindable] at hx
    cases hx
    exact ⟨hv, rfl⟩
  · rintro ⟨hv, rfl⟩
    obtain ⟨u, hu, hbindable⟩ := hconverts.ok hv
    have htext : v.convertFor c.column.kind = .ok v.momentText := Value.convertFor_eq_ok hv
    rw [htext] at hu
    cases hu
    exact ⟨_, Attempt.map_eq_ok.mpr ⟨_, htext, rfl⟩,
      Attempt.map_eq_ok.mpr ⟨_, Value.toScalar_eq_ok hbindable, rfl⟩⟩

theorem binds_oneOf_nil {c : ColumnRef} {bound : BoundClause} :
    (Clause.oneOf c []).Binds bound ↔ bound = .oneOf c [] := by
  constructor
  · rintro ⟨_, hconverted, hbind⟩
    cases hconverted
    cases hbind
    rfl
  · rintro rfl
    exact ⟨_, rfl, rfl⟩

/-- A list can be bound when each of its members can be handed over after the conversion that its
first one asks for. -/
theorem binds_oneOf_cons {c : ColumnRef} {first : Value} {rest : List Value}
    {bound : BoundClause} : (Clause.oneOf c (first :: rest)).Binds bound ↔
      (first :: rest).all (Value.isMember c.column.kind first) ∧
        bound = .oneOf c ((first :: rest).map (Value.memberParameter c.column.kind first)) := by
  -- All members are converted as the first one asks, so one fact on a member settles the list.
  have hconverts := Value.converts_memberConversion c.column.kind first
  have hmember : ∀ v x, (∃ u, Value.memberConversion c.column.kind first v = .ok u ∧
      u.toScalar = .ok x) ↔ Value.isMember c.column.kind first v ∧
        Value.memberParameter c.column.kind first v = x := by
    intro v x
    constructor
    · rintro ⟨u, hu, hx⟩
      have hbindable := Value.isBindable_of_toScalar hx
      rw [Value.toScalar_eq_ok hbindable] at hx
      refine ⟨hconverts.accepted hu hbindable, ?_⟩
      rw [Value.memberParameter, hu]
      exact Except.ok.inj hx
    · rintro ⟨hv, rfl⟩
      obtain ⟨u, hu, hbindable⟩ := hconverts.ok hv
      exact ⟨u, hu, by rw [Value.toScalar_eq_ok hbindable, Value.memberParameter, hu]⟩
  have hmembers : ∀ xs, (∃ us, (first :: rest).mapM (Value.memberConversion c.column.kind first) =
      .ok us ∧ us.mapM Value.toScalar = .ok xs) ↔
        (first :: rest).all (Value.isMember c.column.kind first) ∧
          (first :: rest).map (Value.memberParameter c.column.kind first) = xs := by
    intro xs
    simp only [Attempt.exists_mapM_mapM, hmember]
    rw [List.forall₂_and_left, List.all_eq_true, ← List.forall₂_map_left_iff,
      List.forall₂_eq_eq_eq]
  constructor
  · rintro ⟨converted, hconverted, hbind⟩
    obtain ⟨us, hus, rfl⟩ := Attempt.map_eq_ok.mp hconverted
    obtain ⟨xs, hxs, rfl⟩ := Attempt.map_eq_ok.mp hbind
    obtain ⟨hall, rfl⟩ := (hmembers xs).mp ⟨us, hus, hxs⟩
    exact ⟨hall, rfl⟩
  · rintro ⟨hall, rfl⟩
    obtain ⟨us, hus, hxs⟩ := (hmembers _).mpr ⟨hall, rfl⟩
    exact ⟨_, Attempt.map_eq_ok.mpr ⟨us, hus, rfl⟩, Attempt.map_eq_ok.mpr ⟨_, hxs, rfl⟩⟩

def boundOf (op : Operator) (c : ColumnRef) (v : Value) : BoundClause :=
  match op with
  | .contains => .like c (containsPattern v.shown)
  | .oneOf =>
    match v.items with
    | .ok (first :: rest) =>
      .oneOf c ((first :: rest).map (Value.memberParameter c.column.kind first))
    | _ => .oneOf c []
  | .equals => if v.isNull then .never else .compare c .equal v.momentText.parameter
  | .below => .compare c .less v.momentText.parameter
  | .atMost => .compare c .lessOrEqual v.momentText.parameter
  | .above => .compare c .greater v.momentText.parameter
  | .atLeast => .compare c .greaterOrEqual v.momentText.parameter

theorem binds_ordering {c : ColumnRef} {comparison : Comparison} {v : Value}
    {bound : BoundClause} : (∃ clause, ordering c comparison v = .ok clause ∧ clause.Binds bound) ↔
      v.isComparable ∧ bound = .compare c comparison v.momentText.parameter := by
  cases v with
  | null | bool _ => simp [ordering, Value.isComparable]
  | _ =>
    simp only [ordering, Except.ok.injEq, exists_eq_left', binds_compare]
    rfl

theorem binds_oneOf {c : ColumnRef} {v : Value} {bound : BoundClause} :
    (∃ clause, ofOperator .oneOf c v = .ok clause ∧ clause.Binds bound) ↔
      Operator.oneOf.takes c.column.kind v ∧ bound = boundOf .oneOf c v := by
  dsimp only [ofOperator, Operator.takes, boundOf]
  rcases v.items with e | _ | ⟨first, rest⟩
  · simp [Except.map]
  · simp only [Except.map, Except.ok.injEq, exists_eq_left', binds_oneOf_nil, true_and]
  · simp only [Except.map, Except.ok.injEq, exists_eq_left', binds_oneOf_cons]

/-- A clause can be built and bound when the store takes the operand, and in one way only. -/
theorem binds_ofOperator {op : Operator} {c : ColumnRef} {v : Value} {bound : BoundClause} :
    (∃ clause, ofOperator op c v = .ok clause ∧ clause.Binds bound) ↔
      op.takes c.column.kind v ∧ bound = boundOf op c v := by
  cases op with
  | equals =>
    cases v with
    | null | bool _ => simp [ofOperator, Binds, convert, bind, Operator.takes, boundOf,
        Value.isBindable, Value.isNull, Value.momentText, Value.parameter, eq_comm]
    | _ =>
      simp only [ofOperator, Except.ok.injEq, exists_eq_left', binds_compare]
      rfl
  | contains => simp [ofOperator, Binds, convert, bind, Operator.takes, boundOf, eq_comm]
  | oneOf => exact binds_oneOf
  | below | atMost | above | atLeast => exact binds_ordering

theorem test_null (comparison : Comparison) (kind : ColumnKind) (x : Scalar) :
    comparison.test kind x .null = false := by
  cases kind <;> cases x <;> rfl

theorem holds_boundOf {op : Operator} {c : ColumnRef} {v : Value} {m : Match} {cell : Cell}
    (hcell : m.cell? c = some cell) (hkind : cell.kind = c.column.kind) :
    (boundOf op c v).holds m = op.holds cell v := by
  have hscalar : m.scalar c = cell.scalar := by rw [Match.scalar, hcell]
  cases op with
  | equals =>
    dsimp only [boundOf]
    split
    · rename_i hnull
      cases v with
      | null => exact (test_null _ _ _).symm
      | _ => nomatch hnull
    · simp [BoundClause.holds, Operator.holds, Operator.comparison?, hscalar, hkind]
  | oneOf =>
    dsimp only [boundOf, Operator.holds]
    rcases v.items with e | _ | ⟨first, rest⟩
    · rfl
    · rfl
    · rw [BoundClause.holds, List.any_map, hscalar, hkind]
      rfl
  | _ => simp [boundOf, BoundClause.holds, Operator.holds, Operator.comparison?, hscalar, hkind]

theorem isInternal_of_ofOperator {op : Operator} {c : ColumnRef} {v : Value} {e : Failure}
    (h : ofOperator op c v = .error e) : e.isInternal := by
  have hordering : ∀ comparison, ordering c comparison v = .error e → e.isInternal := by
    intro comparison h
    cases v with
    | null | bool _ =>
      cases h
      rfl
    | _ => nomatch h
  cases op with
  | equals => cases v <;> nomatch h
  | contains => nomatch h
  | oneOf =>
    have hitems := Attempt.map_eq_error.mp h
    cases v with
    | list _ | text _ | object _ => nomatch hitems
    | _ =>
      cases hitems
      rfl
  | below | atMost | above | atLeast => exact hordering _ h

end Clause

namespace Condition

/-- Can the store take the condition on a column of a kind? No unknown operator can be taken. -/
def takes (cond : Condition) (kind : ColumnKind) : Bool :=
  (Operator.ofName? cond.op).any fun op => op.takes kind cond.value

def holds (cond : Condition) (cell : Cell) : Bool :=
  (Operator.ofName? cond.op).any fun op => op.holds cell cond.value

end Condition

namespace Clause

variable {cond : Condition} {c : ColumnRef}

theorem exists_binds_ofCondition :
    (∃ clause bound, ofCondition cond c = .ok clause ∧ clause.Binds bound) ↔
      cond.takes c.column.kind := by
  rw [exists_comm]
  unfold ofCondition Condition.takes
  cases Operator.ofName? cond.op with
  | none => simp
  | some op => simp [binds_ofOperator]

theorem holds_of_binds {clause : Clause} {bound : BoundClause}
    (hclause : ofCondition cond c = .ok clause) (hbinds : clause.Binds bound) {m : Match}
    {cell : Cell} (hcell : m.cell? c = some cell) (hkind : cell.kind = c.column.kind) :
    bound.holds m = cond.holds cell := by
  unfold ofCondition at hclause
  unfold Condition.holds
  cases hop : Operator.ofName? cond.op with
  | none =>
    rw [hop] at hclause
    nomatch hclause
  | some op =>
    rw [hop] at hclause
    obtain ⟨-, rfl⟩ := binds_ofOperator.mp ⟨clause, hclause, hbinds⟩
    exact holds_boundOf hcell hkind

theorem isInternal_of_ofCondition {e : Failure} (h : ofCondition cond c = .error e) :
    e.isInternal := by
  unfold ofCondition at h
  split at h
  · cases h
    rfl
  · exact isInternal_of_ofOperator h

end Clause

namespace Select

variable {s : Select} {prepared : Attempt Unit}

/-- The values of a selection can be handed over when each of its clauses can be bound, the
statement can be prepared, and the limit is an integer of the store. -/
theorem handOver_eq_ok {bounds : List BoundClause} : s.handOver prepared = .ok bounds ↔
    List.Forall₂ Clause.Binds s.clauses bounds ∧ prepared = .ok () ∧ fits64 s.limit := by
  have hbinds : List.Forall₂ Clause.Binds s.clauses bounds ↔
      ∃ converted, s.clauses.mapM Clause.convert = .ok converted ∧
        converted.mapM Clause.bind = .ok bounds := Attempt.exists_mapM_mapM.symm
  have hlimit : (∃ x, (Value.int s.limit).toScalar = .ok x) ↔ fits64 s.limit := by
    rw [Value.toScalar]
    split <;> simp_all
  rw [hbinds, ← hlimit]
  constructor
  · intro h
    obtain ⟨converted, hconverted, h⟩ := Attempt.bind_eq_ok.mp h
    obtain ⟨_, hprepared, h⟩ := Attempt.bind_eq_ok.mp h
    obtain ⟨_, hbound, h⟩ := Attempt.bind_eq_ok.mp h
    obtain ⟨x, hx, h⟩ := Attempt.bind_eq_ok.mp h
    cases h
    exact ⟨⟨converted, hconverted, hbound⟩, hprepared, x, hx⟩
  · rintro ⟨⟨converted, hconverted, hbound⟩, hprepared, x, hx⟩
    rw [handOver, hconverted, hprepared, Attempt.ok_bind, Attempt.ok_bind, hbound,
      Attempt.ok_bind, hx]
    rfl

/-- A selection whose values cannot be handed over fails with an error that no caller expects. -/
theorem isInternal_of_handOver {e : Failure} (hprepared : ∀ e, prepared = .error e → e.isInternal)
    (h : s.handOver prepared = .error e) : e.isInternal := by
  rcases Attempt.bind_eq_error.mp h with hconvert | ⟨converted, -, h⟩
  · obtain ⟨clause, -, hclause⟩ := Attempt.exists_of_mapM_eq_error hconvert
    exact Clause.isInternal_of_convert hclause
  rcases Attempt.bind_eq_error.mp h with hfails | ⟨_, -, h⟩
  · exact hprepared e hfails
  rcases Attempt.bind_eq_error.mp h with hbind | ⟨bounds, -, h⟩
  · obtain ⟨clause, -, hclause⟩ := Attempt.exists_of_mapM_eq_error hbind
    exact Clause.isInternal_of_bind hclause
  rcases Attempt.bind_eq_error.mp h with hlimit | ⟨_, -, h⟩
  · exact Value.isInternal_of_toScalar hlimit
  · nomatch h

end Select

end QueryGate
