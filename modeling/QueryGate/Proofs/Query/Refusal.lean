import QueryGate.Proofs.Query.Rearrangement

/-!
# Which failure an accepted spec ends in

Clauses are built first, then all their values are converted, and then all are handed over. Each of
these stages has one failure, so that a selection fails as one of its filters does by itself: the
one whose stage comes first. Main statement: `Query.failsWith_of_rows`. By itself a filter fails the
same on all columns of one kind (`Filter.IsKept.bound_eq_error`).
-/

set_option autoImplicit false

namespace QueryGate

/-- The stage at which a filter fails: building its clause, converting its values or handing them
over. -/
def Failure.stage : Failure → Nat
  | .unbuildable => 0
  | .unbindable => 1
  | _ => 2

namespace Value

def isFlat : Value → Bool
  | .list _ | .object _ => false
  | _ => true

theorem isFlat_of_isScalar {v : Value} (h : v.isNull || v.isScalar) : v.isFlat := by
  cases v with
  | list _ | object _ => cases h
  | _ => rfl

/-- The conversion fails in one way only, and it makes no list and no object of other values. -/
structure IsConversion (conversion : Value → Attempt Value) : Prop where
  error : ∀ {v e}, conversion v = .error e → e = .unbindable
  flat : ∀ {v u}, v.isFlat → conversion v = .ok u → u.isFlat

theorem isConversion_convertFor (kind : ColumnKind) : IsConversion (convertFor kind) where
  error {v e} h := by
    cases v <;> cases kind <;> cases h <;> rfl
  flat {v u} hv h := by
    cases v with
    | list _ | object _ => cases hv
    | _ => cases kind <;> cases h <;> rfl

theorem isConversion_ok : IsConversion .ok where
  error h := by cases h
  flat hv h := Except.ok.inj h ▸ hv

theorem isConversion_toTruth : IsConversion toTruth where
  error {v e} h := by
    unfold toTruth at h
    split_ifs at h
    cases h
    rfl
  flat {v u} _ h := by
    unfold toTruth at h
    split_ifs at h
    all_goals
      cases h
      rfl

theorem isConversion_toFloat : IsConversion toFloat where
  error {v e} h := by
    cases v with
    | int _ | text _ =>
      dsimp only [toFloat] at h
      split at h
      all_goals
        cases h
        try rfl
    | null | bool _ | float _ => cases h
    | _ =>
      cases h
      rfl
  flat {v u} _ h := by
    cases v with
    | int _ | text _ =>
      dsimp only [toFloat] at h
      split at h
      all_goals
        cases h
        try rfl
    | null | bool _ | float _ =>
      cases h
      rfl
    | _ => cases h

theorem isConversion_toMoment : IsConversion toMoment where
  error {v e} h := by
    cases v <;> cases h
    all_goals rfl
  flat {v u} _ h := by
    cases v <;> cases h
    all_goals rfl

theorem isConversion_toDay : IsConversion toDay where
  error {v e} h := by
    cases v <;> cases h
    all_goals rfl
  flat {v u} _ h := by
    cases v <;> cases h
    all_goals rfl

theorem isConversion_memberConversion (kind : ColumnKind) (first : Value) :
    IsConversion (memberConversion kind first) := by
  cases first with
  | bool _ => exact isConversion_toTruth
  | float _ => exact isConversion_toFloat
  | moment _ => exact isConversion_toMoment
  | day _ => exact isConversion_toDay
  | text _ | int _ => exact isConversion_ok
  | null | list _ | object _ =>
    cases kind with
    | moment => exact isConversion_toMoment
    | integer | text => exact isConversion_ok

theorem eq_tooLarge_of_toScalar {v : Value} (hv : v.isFlat) {e : Failure}
    (h : v.toScalar = .error e) :
    e = .tooLarge "integer outside the range of stored numbers" := by
  cases v with
  | list _ | object _ => cases hv
  | int n =>
    rw [toScalar] at h
    split at h
    · cases h
    · cases h
      rfl
  | _ => cases h

end Value

namespace Clause

def operands : Clause → List Value
  | .compare _ _ v => [v]
  | .oneOf _ vs => vs
  | _ => []

theorem eq_unbuildable_of_ofOperator {op : Operator} {c : ColumnRef} {v : Value} {e : Failure}
    (hv : Whitelist.acceptsValue op v) (h : ofOperator op c v = .error e) : e = .unbuildable := by
  have hordering : ∀ comparison, ordering c comparison v = .error e → e = .unbuildable := by
    intro comparison h
    cases v with
    | null | bool _ =>
      cases h
      rfl
    | _ => cases h
  cases op with
  | equals => cases v <;> cases h
  | contains => cases h
  | oneOf =>
    cases v with
    | list _ => cases h
    | _ => cases hv
  | below | atMost | above | atLeast => exact hordering _ h

theorem isFlat_of_ofOperator {op : Operator} {c : ColumnRef} {v : Value} {clause : Clause}
    (hv : Whitelist.acceptsValue op v) (h : ofOperator op c v = .ok clause) :
    ∀ u ∈ clause.operands, u.isFlat := by
  have hordering : ∀ comparison, v.isScalar → ordering c comparison v = .ok clause →
      ∀ u ∈ clause.operands, u.isFlat := by
    intro comparison hscalar h
    have hflat : v.isFlat := Value.isFlat_of_isScalar (by simp [hscalar])
    cases v with
    | null | bool _ => cases h
    | _ =>
      cases h
      exact List.forall_mem_singleton.mpr hflat
  cases op with
  | equals =>
    have hflat : v.isFlat := Value.isFlat_of_isScalar hv
    cases v with
    | null | bool _ =>
      cases h
      exact List.forall_mem_nil _
    | _ =>
      cases h
      exact List.forall_mem_singleton.mpr hflat
  | contains =>
    cases h
    exact List.forall_mem_nil _
  | oneOf =>
    cases v with
    | list items =>
      cases h
      intro u hu
      exact Value.isFlat_of_isScalar (List.all_eq_true.mp hv u hu)
    | _ => cases hv
  | below | atMost | above | atLeast => exact hordering _ hv h

theorem eq_unbindable_of_convert {clause : Clause} {e : Failure} (h : clause.convert = .error e) :
    e = .unbindable := by
  cases clause with
  | compare c comparison v =>
    exact (Value.isConversion_convertFor _).error (Attempt.map_eq_error.mp h)
  | oneOf c vs =>
    cases vs with
    | nil => cases h
    | cons first rest =>
      obtain ⟨v, -, hv⟩ := Attempt.exists_of_mapM_eq_error (Attempt.map_eq_error.mp h)
      exact (Value.isConversion_memberConversion _ _).error hv
  | _ => cases h

theorem isFlat_of_convert {clause converted : Clause} (hflat : ∀ v ∈ clause.operands, v.isFlat)
    (h : clause.convert = .ok converted) : ∀ v ∈ converted.operands, v.isFlat := by
  cases clause with
  | compare c comparison v =>
    obtain ⟨u, hu, rfl⟩ := Attempt.map_eq_ok.mp h
    rw [operands, List.forall_mem_singleton] at hflat ⊢
    exact (Value.isConversion_convertFor _).flat hflat hu
  | oneOf c vs =>
    cases vs with
    | nil =>
      cases h
      exact hflat
    | cons first rest =>
      obtain ⟨us, hus, rfl⟩ := Attempt.map_eq_ok.mp h
      intro u hu
      obtain ⟨v, hv, hconverted⟩ := Attempt.exists_mem_of_ok hus hu
      exact (Value.isConversion_memberConversion _ _).flat (hflat v hv) hconverted
  | _ =>
    cases h
    exact hflat

theorem eq_tooLarge_of_bind {clause : Clause} (hflat : ∀ v ∈ clause.operands, v.isFlat)
    {e : Failure} (h : clause.bind = .error e) :
    e = .tooLarge "integer outside the range of stored numbers" := by
  cases clause with
  | compare c comparison v =>
    exact Value.eq_tooLarge_of_toScalar (hflat v (by simp [operands])) (Attempt.map_eq_error.mp h)
  | oneOf c vs =>
    obtain ⟨v, hv, herror⟩ := Attempt.exists_of_mapM_eq_error (Attempt.map_eq_error.mp h)
    exact Value.eq_tooLarge_of_toScalar (hflat v hv) herror
  | _ => cases h

def boundBy (op : Operator) (c : ColumnRef) (v : Value) : Attempt BoundClause := do
  let clause ← ofOperator op c v
  let converted ← clause.convert
  converted.bind

theorem convert_compare_bind (c : ColumnRef) (comparison : Comparison) (v : Value) :
    ((Clause.compare c comparison v).convert >>= bind) =
      (v.convertFor c.column.kind >>= Value.toScalar).map (.compare c comparison) := by
  dsimp only [convert]
  cases v.convertFor c.column.kind <;> rfl

theorem convert_oneOf_bind (c : ColumnRef) (first : Value) (rest : List Value) :
    ((Clause.oneOf c (first :: rest)).convert >>= bind) =
      ((first :: rest).mapM (Value.memberConversion c.column.kind first) >>=
        List.mapM Value.toScalar).map (.oneOf c) := by
  dsimp only [convert]
  cases (first :: rest).mapM (Value.memberConversion c.column.kind first) <;> rfl

theorem boundBy_eq_error_of_kind {op : Operator} {c c' : ColumnRef} {v : Value} {e : Failure}
    (hkind : c.column.kind = c'.column.kind) (h : boundBy op c v = .error e) :
    boundBy op c' v = .error e := by
  have hcompare : ∀ comparison, ((Clause.compare c comparison v).convert >>= bind) = .error e →
      ((Clause.compare c' comparison v).convert >>= bind) = .error e := by
    intro comparison h
    rw [convert_compare_bind, Attempt.map_eq_error] at h ⊢
    rwa [← hkind]
  have hordering : ∀ comparison, (ordering c comparison v >>= fun clause =>
      clause.convert >>= bind) = .error e →
      (ordering c' comparison v >>= fun clause => clause.convert >>= bind) = .error e := by
    intro comparison h
    cases v with
    | null | bool _ => exact h
    | _ => exact hcompare comparison h
  unfold boundBy at h ⊢
  cases op with
  | equals =>
    cases v with
    | null | bool _ => cases h
    | _ => exact hcompare .equal h
  | contains => cases h
  | oneOf =>
    dsimp only [ofOperator] at h ⊢
    generalize v.items = items at h ⊢
    -- No items, no members, or a list that is converted for the kind of the column.
    rcases items with fault | _ | ⟨first, rest⟩
    · exact h
    · cases h
    · have hlist : ((Clause.oneOf c (first :: rest)).convert >>= bind) = .error e := h
      show ((Clause.oneOf c' (first :: rest)).convert >>= bind) = .error e
      rw [convert_oneOf_bind, Attempt.map_eq_error] at hlist ⊢
      rwa [← hkind]
  | below | atMost | above | atLeast => exact hordering _ h

end Clause

theorem Clause.ofCondition_condition (f : Filter) (c : ColumnRef) :
    ofCondition f.condition c = ofOperator f.op c f.value := by
  rw [ofCondition, Filter.condition, Operator.ofName?_name]

namespace Whitelist

theorem table?_user : standard.table? (.text "User") = some userTable := by
  cbv

theorem isSome_columnNamed?_user {name : String} (h : Value.text name ∈ userTable.fields) :
    (columnNamed? userColumns name).isSome := by
  simp only [userTable, names, List.map_cons, List.map_nil, List.mem_cons, Value.text.injEq,
    List.not_mem_nil, or_false] at h
  rcases h with rfl | rfl | rfl | rfl | rfl <;> decide

end Whitelist

namespace Filter

/-- How a column is looked up: on the blog, or on its author behind a relation. -/
def lookup : Option String → String → Attempt ColumnRef
  | none => Select.baseColumn
  | some _ => Select.authorColumn

def clause (f : Filter) : Attempt Clause :=
  Select.clauseOf (lookup f.path.relation) (f.path.column, f.condition)

def bound (f : Filter) : Attempt BoundClause := do
  let clause ← f.clause
  let converted ← clause.convert
  converted.bind

/-- The filter is one that the standard whitelist lets through on blogs. -/
structure IsKept (f : Filter) : Prop where
  path : Whitelist.standard.AllowsPath Whitelist.blogTable f.path
  value : Whitelist.acceptsValue f.op f.value

theorem isKept_of_describes {raw : Value} {s : Spec} (hs : Whitelist.standard.Describes raw s)
    (hblog : s.table = "Blog") : ∀ f ∈ s.filters, f.IsKept := by
  intro f hf
  rw [hs.filters, hblog] at hf
  obtain ⟨hpath, hvalue⟩ := Whitelist.allowsPath_of_mem_sanitizeFilters Whitelist.table?_blog hf
  exact ⟨hpath, hvalue⟩

variable {f : Filter}

theorem IsKept.relation (h : f.IsKept) :
    f.path.relation = none ∨ f.path.relation = some Select.authorRelation := by
  obtain ⟨hpath, -⟩ := h
  generalize f.path = path at hpath ⊢
  obtain ⟨_ | relation, column⟩ := path
  · exact .inl rfl
  · obtain ⟨r, target, hr, -⟩ := hpath
    exact .inr (congrArg some (Whitelist.relation?_blog hr).1)

theorem IsKept.exists_column (h : f.IsKept) :
    ∃ c, lookup f.path.relation f.path.column = .ok c ∧ f.path.column? = some c.column := by
  obtain ⟨hpath, -⟩ := h
  generalize f.path = path at hpath ⊢
  obtain ⟨_ | relation, column⟩ := path
  · obtain ⟨c, hc⟩ := Option.isSome_iff_exists.mp (Whitelist.isSome_columnNamed?_blog hpath)
    exact ⟨_, Select.findColumn_eq_ok.mpr ⟨c, hc, rfl⟩, hc⟩
  · obtain ⟨r, target, hr, htarget, hcolumn⟩ := hpath
    obtain ⟨rfl, rfl⟩ := Whitelist.relation?_blog hr
    obtain rfl : Whitelist.userTable = target :=
      Option.some.inj (Whitelist.table?_user.symm.trans htarget)
    obtain ⟨c, hc⟩ := Option.isSome_iff_exists.mp (Whitelist.isSome_columnNamed?_user hcolumn)
    exact ⟨_, Select.findColumn_eq_ok.mpr ⟨c, hc, rfl⟩, hc⟩

theorem clause_eq {c : ColumnRef} (hc : lookup f.path.relation f.path.column = .ok c) :
    f.clause = Clause.ofOperator f.op c f.value := by
  rw [clause, Select.clauseOf, hc, Attempt.ok_bind, Clause.ofCondition_condition]

theorem IsKept.eq_unbuildable (h : f.IsKept) {e : Failure} (he : f.clause = .error e) :
    e = .unbuildable := by
  obtain ⟨c, hc, -⟩ := h.exists_column
  rw [clause_eq hc] at he
  exact Clause.eq_unbuildable_of_ofOperator h.value he

theorem IsKept.eq_tooLarge (h : f.IsKept) {clause converted : Clause}
    (hclause : f.clause = .ok clause) (hconverted : clause.convert = .ok converted) {e : Failure}
    (he : converted.bind = .error e) :
    e = .tooLarge "integer outside the range of stored numbers" := by
  obtain ⟨c, hc, -⟩ := h.exists_column
  rw [clause_eq hc] at hclause
  have hflat := Clause.isFlat_of_ofOperator h.value hclause
  exact Clause.eq_tooLarge_of_bind (Clause.isFlat_of_convert hflat hconverted) he

theorem bound_eq_error {e : Failure} : f.bound = .error e ↔ f.clause = .error e ∨
    ∃ clause, f.clause = .ok clause ∧ (clause.convert = .error e ∨
      ∃ converted, clause.convert = .ok converted ∧ converted.bind = .error e) := by
  simp only [bound, Attempt.bind_eq_error]

theorem IsKept.bound_eq_error {f' : Filter} (h : f.IsKept) (h' : f'.IsKept) (hop : f.op = f'.op)
    (hvalue : f.value = f'.value)
    (hkind : f.path.column?.map (·.kind) = f'.path.column?.map (·.kind)) {e : Failure}
    (he : f.bound = .error e) : f'.bound = .error e := by
  obtain ⟨c, hc, hcolumn⟩ := h.exists_column
  obtain ⟨c', hc', hcolumn'⟩ := h'.exists_column
  rw [hcolumn, hcolumn', Option.map_some, Option.map_some, Option.some.injEq] at hkind
  rw [bound, clause_eq hc']
  rw [bound, clause_eq hc, hop, hvalue] at he
  exact Clause.boundBy_eq_error_of_kind hkind he

theorem IsKept.two_le_stage (h : f.IsKept) {clause converted : Clause}
    (hclause : f.clause = .ok clause) (hconverted : clause.convert = .ok converted) {e : Failure}
    (he : f.bound = .error e) : 2 ≤ e.stage := by
  rw [bound, hclause, Attempt.ok_bind, hconverted, Attempt.ok_bind] at he
  obtain rfl := h.eq_tooLarge hclause hconverted he
  exact le_rfl

theorem IsKept.one_le_stage (h : f.IsKept) {clause : Clause} (hclause : f.clause = .ok clause)
    {e : Failure} (he : f.bound = .error e) : 1 ≤ e.stage := by
  cases hconverted : clause.convert with
  | error d =>
    rw [bound, hclause, Attempt.ok_bind, hconverted] at he
    obtain rfl := Clause.eq_unbindable_of_convert hconverted
    cases he
    exact le_rfl
  | ok converted => exact (h.two_le_stage hclause hconverted he).trans' (by decide)

theorem eq_of_stage_eq {f' : Filter} (h : f.IsKept) (h' : f'.IsKept) {e e' : Failure}
    (he : f.bound = .error e) (he' : f'.bound = .error e') (hstage : e.stage = e'.stage) :
    e = e' := by
  have hcases : ∀ {f : Filter} {e : Failure}, f.IsKept → f.bound = .error e →
      e = .unbuildable ∨ e = .unbindable ∨
        e = .tooLarge "integer outside the range of stored numbers" := by
    intro f e h he
    rcases bound_eq_error.mp he with hbuild | ⟨clause, hclause, hconvert | ⟨converted, hok, hbind⟩⟩
    · exact .inl (h.eq_unbuildable hbuild)
    · exact .inr (.inl (Clause.eq_unbindable_of_convert hconvert))
    · exact .inr (.inr (h.eq_tooLarge hclause hok hbind))
  rcases hcases h he with rfl | rfl | rfl
  all_goals
    rcases hcases h' he' with rfl | rfl | rfl
    all_goals first | rfl | cases hstage

end Filter

/-- The failure is that of a filter by itself, and no filter fails at an earlier stage. -/
structure Spec.FailsWith (s : Spec) (e : Failure) : Prop where
  blamed : ∃ f ∈ s.filters, f.bound = .error e
  earliest : ∀ f ∈ s.filters, ∀ e', f.bound = .error e' → e.stage ≤ e'.stage

theorem Spec.FailsWith.unique {s : Spec} (hkept : ∀ f ∈ s.filters, f.IsKept) {e e' : Failure}
    (h : s.FailsWith e) (h' : s.FailsWith e') : e = e' := by
  obtain ⟨f, hf, he⟩ := h.blamed
  obtain ⟨f', hf', he'⟩ := h'.blamed
  have hstage : e.stage = e'.stage :=
    le_antisymm (h.earliest f' hf' e' he') (h'.earliest f hf e he)
  exact Filter.eq_of_stage_eq (hkept f hf) (hkept f' hf') he he' hstage

/-- A spec fails the same when one filter is exchanged for another that fails the same by itself. -/
theorem Spec.FailsWith.exchange {s s' : Spec} {before after : List Filter} {f f' : Filter}
    (hs : s.filters = before ++ f :: after) (hs' : s'.filters = before ++ f' :: after)
    (hsame : ∀ e, f.bound = .error e ↔ f'.bound = .error e) {e : Failure} (h : s.FailsWith e) :
    s'.FailsWith e := by
  have hfails : ∀ d, (∃ g ∈ s.filters, g.bound = .error d) ↔
      ∃ g ∈ s'.filters, g.bound = .error d := by
    intro d
    simp only [hs, hs', List.mem_append, List.mem_cons, or_and_right, exists_or, exists_eq_left,
      hsame]
  refine ⟨(hfails e).mp h.blamed, ?_⟩
  intro g' hg' d hd
  obtain ⟨g, hg, hgd⟩ := (hfails d).mpr ⟨g', hg', hd⟩
  exact h.earliest g hg d hgd

theorem Predicate.exists_clauseOf_iff (filters : List Filter) (relation : Option String)
    (x : Attempt Clause) :
    (∃ p ∈ ((ofFilters filters).conditionsBehind relation).flat,
      Select.clauseOf (Filter.lookup relation) p = x) ↔
      ∃ f ∈ filters, f.path.relation = relation ∧ f.clause = x := by
  simp only [mem_flat_conditionsBehind]
  constructor
  · rintro ⟨⟨column, condition⟩, ⟨f, hf, hpath, rfl⟩, hx⟩
    refine ⟨f, hf, by rw [hpath], ?_⟩
    rw [Filter.clause, hpath]
    exact hx
  · rintro ⟨f, hf, rfl, hx⟩
    exact ⟨(f.path.column, f.condition), ⟨f, hf, rfl, rfl⟩, hx⟩

namespace Select

theorem clausesOf_eq_error_of_ofQuery {q : Query} (hq : q.CrossesAuthorOnly)
    (hprojection : ∀ f ∈ q.projection, (columnNamed? blogColumns f).isSome)
    (hcolumns : ∀ v ∈ q.authorColumns, (v.text?.bind (columnNamed? userColumns)).isSome)
    {e : Failure} (h : ofQuery q = .error e) :
    clausesOf baseColumn q.predicate.fields = .error e ∨
      clausesOf authorColumn q.authorConditions = .error e := by
  rw [ofQuery] at h
  simp only [foldlM_addRelation hq] at h
  rcases Attempt.bind_eq_error.mp h with houtputs | ⟨outputs, -, h⟩
  · obtain ⟨name, hname, herror⟩ := Attempt.exists_of_mapM_eq_error houtputs
    obtain ⟨c, hc⟩ := Option.isSome_iff_exists.mp (hprojection name hname)
    rw [baseColumn, findColumn_eq_ok.mpr ⟨c, hc, rfl⟩] at herror
    cases herror
  rcases Attempt.bind_eq_error.mp h with hfields | ⟨own, -, h⟩
  · exact .inl hfields
  rcases Attempt.bind_eq_error.mp h with hauthor | ⟨author, -, h⟩
  · exact .inr hauthor
  rcases Attempt.bind_eq_error.mp h with hnested | ⟨nested, -, h⟩
  · obtain ⟨v, hv, herror⟩ := Attempt.exists_of_mapM_eq_error hnested
    obtain ⟨c, hc⟩ := Option.isSome_iff_exists.mp (hcolumns v hv)
    obtain ⟨name, hname, hc⟩ := Option.bind_eq_some_iff.mp hc
    rw [Value.text?_eq_some.mp hname, identifyingOutput, authorColumn,
      findColumn_eq_ok.mpr ⟨c, hc, rfl⟩] at herror
    cases herror
  · cases h

end Select

namespace Query

open Whitelist

theorem exists_filter_of_clausesOf {w : Whitelist} {s : Spec} (relation : Option String)
    {e : Failure} (h : Select.clausesOf (Filter.lookup relation)
      ((ofSpec w s).predicate.conditionsBehind relation) = .error e) :
    ∃ f ∈ s.filters, f.clause = .error e := by
  rw [Select.clausesOf_eq] at h
  obtain ⟨f, hf, -, herror⟩ := (Predicate.exists_clauseOf_iff s.filters relation _).mp
    (Attempt.exists_of_mapM_eq_error h)
  exact ⟨f, hf, herror⟩

variable {raw : Value} {s : Spec} (hs : standard.Describes raw s) (hblog : s.table = "Blog")
include hs hblog

theorem mem_clauses_iff {selection : Select} (hasks : Select.Asks (ofSpec standard s) selection)
    {clause : Clause} : clause ∈ selection.clauses ↔ ∃ f ∈ s.filters, f.clause = .ok clause := by
  obtain ⟨own, author, hown, hauthor, hclauses⟩ := hasks.clauses
  have hfields : clause ∈ own ↔ ∃ f ∈ s.filters, f.path.relation = none ∧ f.clause = .ok clause :=
    (Select.mem_clausesOf_iff hown).trans (Predicate.exists_clauseOf_iff s.filters none _)
  have hbehind : clause ∈ author ↔ ∃ f ∈ s.filters,
      f.path.relation = some Select.authorRelation ∧ f.clause = .ok clause :=
    (Select.mem_clausesOf_iff hauthor).trans
      (Predicate.exists_clauseOf_iff s.filters (some Select.authorRelation) _)
  rw [hclauses, List.mem_append, hfields, hbehind]
  constructor
  · rintro (⟨f, hf, -, hclause⟩ | ⟨f, hf, -, hclause⟩)
    · exact ⟨f, hf, hclause⟩
    · exact ⟨f, hf, hclause⟩
  · rintro ⟨f, hf, hclause⟩
    rcases (Filter.isKept_of_describes hs hblog f hf).relation with hnone | hauthor
    · exact .inl ⟨f, hf, hnone, hclause⟩
    · exact .inr ⟨f, hf, hauthor, hclause⟩

theorem exists_clause {selection : Select} (hasks : Select.Asks (ofSpec standard s) selection)
    {f : Filter} (hf : f ∈ s.filters) : ∃ clause, f.clause = .ok clause := by
  have hmember : ∀ relation clauses, f.path.relation = relation →
      Select.clausesOf (Filter.lookup relation)
        ((ofSpec standard s).predicate.conditionsBehind relation) = .ok clauses →
      ∃ clause, f.clause = .ok clause := by
    rintro _ clauses rfl hclauses
    rw [Select.clausesOf_eq, Attempt.mapM_eq_ok] at hclauses
    refine Attempt.exists_forall₂.mp ⟨clauses, hclauses⟩ (f.path.column, f.condition) ?_
    exact Predicate.mem_flat_conditionsBehind.mpr ⟨f, hf, rfl, rfl⟩
  obtain ⟨own, author, hown, hauthor, -⟩ := hasks.clauses
  rcases (Filter.isKept_of_describes hs hblog f hf).relation with hnone | hrelation
  · exact hmember none own hnone hown
  · exact hmember (some Select.authorRelation) author hrelation hauthor

/-- An accepted spec on blogs fails as one of its filters does by itself, and no filter fails at an
earlier stage. -/
theorem failsWith_of_rows {store : Store} {timeout : Value} {e : Failure}
    (h : (ofSpec standard s).rows store timeout (some s.table) = .error e) : s.FailsWith e := by
  have hkept := Filter.isKept_of_describes hs hblog
  have hcrosses := crossesAuthorOnly_ofSpec fun _ hr => eq_authorRelation_of_mem hs hblog hr
  rw [rows_eq store timeout (ofName?_servedTable standard hblog)] at h
  obtain ⟨d, hd, rfl⟩ := Attempt.mapError_eq_error.mp h
  rcases Attempt.bind_eq_error.mp hd with hbuild | ⟨selection, hselection, hrun⟩
  · -- A clause cannot be built, and that is the first stage.
    have hfilter : ∃ f ∈ s.filters, f.clause = .error d := by
      rcases Select.clausesOf_eq_error_of_ofQuery hcrosses
        (fun _ hf => isSome_column_of_mem_fields hs hblog hf)
        (fun _ hv => isSome_column_of_mem_authorColumns hblog hv) hbuild with hown | hauthor
      · exact exists_filter_of_clausesOf none hown
      · exact exists_filter_of_clausesOf (some Select.authorRelation) hauthor
    obtain ⟨f, hf, herror⟩ := hfilter
    obtain rfl := (hkept f hf).eq_unbuildable herror
    exact ⟨⟨f, hf, Filter.bound_eq_error.mpr (.inl herror)⟩, fun _ _ _ _ => Nat.zero_le _⟩
  have hasks := (Select.ofQuery_eq_ok hcrosses).mp hselection
  have hprepared : selection.prepare = .ok () := by
    rw [Select.prepare_eq_ok, Select.isEmpty_iff hasks]
    exact not_and_or.mpr (.inl hs.fields_ne_nil)
  rcases Attempt.bind_eq_error.mp hrun with hhanded | ⟨bounds, hhanded, -⟩
  · rw [Select.handOver, hprepared] at hhanded
    rcases Attempt.bind_eq_error.mp hhanded with hconvert | ⟨converted, hconverted, hrest⟩
    · -- A value cannot be converted, but every clause was built.
      obtain ⟨clause, hmem, herror⟩ := Attempt.exists_of_mapM_eq_error hconvert
      obtain ⟨f, hf, hclause⟩ := (mem_clauses_iff hs hblog hasks).mp hmem
      obtain rfl := Clause.eq_unbindable_of_convert herror
      refine ⟨⟨f, hf, Filter.bound_eq_error.mpr (.inr ⟨clause, hclause, .inl herror⟩)⟩, ?_⟩
      intro f' hf' e' he'
      obtain ⟨clause', hclause'⟩ := exists_clause hs hblog hasks hf'
      exact (hkept f' hf').one_le_stage hclause' he'
    rw [Attempt.ok_bind] at hrest
    rcases Attempt.bind_eq_error.mp hrest with hbind | ⟨_, -, hrest⟩
    · -- A value cannot be handed over, but every value was converted.
      obtain ⟨c, hc, herror⟩ := Attempt.exists_of_mapM_eq_error hbind
      obtain ⟨clause, hmem, hconvert⟩ := Attempt.exists_mem_of_ok hconverted hc
      obtain ⟨f, hf, hclause⟩ := (mem_clauses_iff hs hblog hasks).mp hmem
      obtain rfl := (hkept f hf).eq_tooLarge hclause hconvert herror
      refine ⟨⟨f, hf, Filter.bound_eq_error.mpr
        (.inr ⟨clause, hclause, .inr ⟨c, hconvert, herror⟩⟩)⟩, ?_⟩
      intro f' hf' e' he'
      obtain ⟨clause', hclause'⟩ := exists_clause hs hblog hasks hf'
      have hmem' := (mem_clauses_iff hs hblog hasks).mpr ⟨f', hf', hclause'⟩
      obtain ⟨c', hc'⟩ := Attempt.exists_forall₂.mp ⟨_, Attempt.mapM_eq_ok.mp hconverted⟩ _ hmem'
      exact (hkept f' hf').two_le_stage hclause' hc' he'
    · -- The limit is the one that the spec was accepted with.
      rw [Value.toScalar, if_pos (hasks.limit.symm ▸ fits64_limit hs)] at hrest
      cases hrest
  · -- Whatever is bound is answered.
    have hbounds := (Select.handOver_eq_ok.mp hhanded).1
    have hok : selection.run store = .ok _ := Select.run_eq_ok hasks hbounds (fits64_limit hs)
      (.inl hs.fields_ne_nil) (nodup_fields hs) (nodup_authorColumns hblog)
    cases hok.symm.trans hrun

end Query

end QueryGate
