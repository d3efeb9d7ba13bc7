import QueryGate.Proofs.Assoc
import QueryGate.Proofs.Store.Condition
import QueryGate.Proofs.Value.Same

/-!
# From queries to selections

`Query.Fits` says that the store has every name of a query and takes each of its conditions. Main
statements: `Select.exists_binds_iff_fits`, those are the queries whose selection can be made and
bound, and `Select.isInternal_of_ofQuery`, a failure before that is internal.
-/

set_option autoImplicit false

namespace QueryGate

def columnNamed? (columns : List Column) (name : String) : Option Column :=
  columns.find? (·.name == name)

namespace Conditions

def flat (cs : Conditions) : List (String × Condition) :=
  cs.flatMap fun g => g.2.map fun cond => (g.1, cond)

/-- Is every condition on one of the columns, and does the store take it there? -/
def fit (cs : Conditions) (columns : List Column) : Bool :=
  cs.flat.all fun p => (columnNamed? columns p.1).any fun c => p.2.takes c.kind

def hold (cs : Conditions) (cell? : String → Option Cell) : Bool :=
  cs.flat.all fun p => (cell? p.1).any p.2.holds

end Conditions

namespace Select

section Clauses

variable {qualifier : String} {columns : List Column}

theorem findColumn_eq_ok {name : String} {c : ColumnRef} :
    findColumn qualifier columns name = .ok c ↔
      ∃ col, columnNamed? columns name = some col ∧ c = ⟨qualifier, col⟩ := by
  unfold findColumn columnNamed?
  cases columns.find? (·.name == name) with
  | none => simp
  | some col => simp [eq_comm]

theorem isInternal_of_findColumn {name : String} {e : Failure}
    (h : findColumn qualifier columns name = .error e) : e.isInternal := by
  unfold findColumn at h
  split at h
  · nomatch h
  · cases h
    rfl

def clauseOf (column : String → Attempt ColumnRef) (p : String × Condition) : Attempt Clause :=
  column p.1 >>= Clause.ofCondition p.2

def groupClauses (column : String → Attempt ColumnRef) (g : String × List Condition) :
    Attempt (List Clause) :=
  g.2.mapM fun cond => (column g.1).bind (Clause.ofCondition cond)

theorem clausesOf_eq_map (column : String → Attempt ColumnRef) (cs : Conditions) :
    clausesOf column cs = (cs.mapM (groupClauses column)).map List.flatten := rfl

theorem clausesOf_eq (column : String → Attempt ColumnRef) (cs : Conditions) :
    clausesOf column cs = cs.flat.mapM (clauseOf column) := by
  induction cs with
  | nil => rfl
  | cons g rest ih =>
    have hflat : Conditions.flat (g :: rest) =
        g.2.map (fun cond => (g.1, cond)) ++ Conditions.flat rest := rfl
    have hgroup : (g.2.map fun cond => (g.1, cond)).mapM (clauseOf column) =
        groupClauses column g := List.mapM_map
    rw [hflat, List.mapM_append, ← ih, hgroup, clausesOf_eq_map, clausesOf_eq_map,
      List.mapM_cons]
    cases groupClauses column g with
    | error e => rfl
    | ok clauses =>
      cases rest.mapM (groupClauses column) with
      | error e => rfl
      | ok groups => rfl

/-- The condition becomes a bound clause of the column that is looked up first. -/
def Gives (column : String → Attempt ColumnRef) (p : String × Condition) (bound : BoundClause) :
    Prop :=
  ∃ clause, clauseOf column p = .ok clause ∧ clause.Binds bound

theorem exists_gives {p : String × Condition} :
    (∃ bound, Gives (findColumn qualifier columns) p bound) ↔
      (columnNamed? columns p.1).any fun c => p.2.takes c.kind := by
  rw [Option.any_eq_true]
  constructor
  · rintro ⟨bound, clause, hclause, hbinds⟩
    obtain ⟨c, hc, hclause⟩ := Attempt.bind_eq_ok.mp hclause
    obtain ⟨col, hcol, rfl⟩ := findColumn_eq_ok.mp hc
    exact ⟨col, hcol, Clause.exists_binds_ofCondition.mp ⟨clause, bound, hclause, hbinds⟩⟩
  · rintro ⟨col, hcol, htakes⟩
    obtain ⟨clause, bound, hclause, hbinds⟩ :=
      (Clause.exists_binds_ofCondition (c := ⟨qualifier, col⟩)).mpr htakes
    exact ⟨bound, clause, Attempt.bind_eq_ok.mpr ⟨_, findColumn_eq_ok.mpr ⟨col, hcol, rfl⟩,
      hclause⟩, hbinds⟩

theorem exists_binds_clausesOf {cs : Conditions} :
    (∃ clauses bounds, clausesOf (findColumn qualifier columns) cs = .ok clauses ∧
      List.Forall₂ Clause.Binds clauses bounds) ↔ cs.fit columns := by
  rw [exists_comm]
  simp only [clausesOf_eq, Attempt.mapM_eq_ok, Attempt.exists_forall₂_forall₂]
  rw [Attempt.exists_forall₂, Conditions.fit, List.all_eq_true]
  exact forall₂_congr fun p _ => exists_gives

theorem holds_of_binds_clausesOf {cs : Conditions} {clauses : List Clause}
    {bounds : List BoundClause}
    (hclauses : clausesOf (findColumn qualifier columns) cs = .ok clauses)
    (hbinds : List.Forall₂ Clause.Binds clauses bounds) {m : Match}
    {cell? : String → Option Cell}
    (hcells : ∀ {name c}, columnNamed? columns name = some c →
      ∃ cell, cell? name = some cell ∧ m.cell? ⟨qualifier, c⟩ = some cell ∧ cell.kind = c.kind) :
    bounds.all (·.holds m) = cs.hold cell? := by
  rw [clausesOf_eq, Attempt.mapM_eq_ok] at hclauses
  have hgives := Attempt.exists_forall₂_forall₂.mp ⟨clauses, hclauses, hbinds⟩
  unfold Conditions.hold
  clear hclauses hbinds
  generalize cs.flat = ps at hgives ⊢
  induction hgives with
  | nil => rfl
  | cons hp _ ih =>
    obtain ⟨clause, hclause, hbound⟩ := hp
    obtain ⟨c, hc, hclause⟩ := Attempt.bind_eq_ok.mp hclause
    obtain ⟨col, hcol, rfl⟩ := findColumn_eq_ok.mp hc
    obtain ⟨cell, hcell, hmatch, hkind⟩ := hcells hcol
    have hholds := Clause.holds_of_binds hclause hbound hmatch hkind
    rw [List.all_cons, List.all_cons, ih, hholds, hcell, Option.any_some]

theorem isInternal_of_clausesOf {cs : Conditions} {e : Failure}
    (h : clausesOf (findColumn qualifier columns) cs = .error e) : e.isInternal := by
  rw [clausesOf_eq] at h
  obtain ⟨p, -, hp⟩ := Attempt.exists_of_mapM_eq_error h
  rcases Attempt.bind_eq_error.mp hp with hcolumn | ⟨c, -, hclause⟩
  · exact isInternal_of_findColumn hcolumn
  · exact Clause.isInternal_of_ofCondition hclause

end Clauses

def IsOwn (name : String) (o : String × Output) : Prop :=
  ∃ c, columnNamed? blogColumns name = some c ∧ o = (name, ⟨⟨baseName, c⟩, name⟩)

/-- The output is the author's column of the name, under the label of the relation. -/
def IsNested (v : Value) (n : NestedOutput) : Prop :=
  ∃ name c, v = .text name ∧ columnNamed? userColumns name = some c ∧
    n = ⟨authorRelation, name, ⟨⟨relatedName authorRelation, c⟩, nestedLabel authorRelation name⟩⟩

end Select

namespace Query

def authorConditions (q : Query) : Conditions :=
  (Assoc.get? Select.authorRelation q.predicate.relations).getD []

/-- Does the query cross the relation to the author? -/
def crossesAuthor (q : Query) : Bool :=
  (Assoc.get? Select.authorRelation q.predicate.relations).isSome

def authorColumns (q : Query) : List Value :=
  if q.crossesAuthor then (Assoc.get? Select.authorRelation q.relationProjection).getD [] else []

/-- The store has every name of the query and takes each of its conditions. -/
structure Fits (q : Query) : Prop where
  projection : ∀ f ∈ q.projection, (columnNamed? blogColumns f).isSome
  fields : q.predicate.fields.fit blogColumns
  author : q.authorConditions.fit userColumns
  authorColumns : ∀ v ∈ q.authorColumns, (v.text?.bind (columnNamed? userColumns)).isSome

/-- The only relation that the query may cross leads to the author. -/
structure CrossesAuthorOnly (q : Query) : Prop where
  nodup : (Assoc.keys q.predicate.relations).Nodup
  relation : ∀ r ∈ q.predicate.relations, r.1 = Select.authorRelation

theorem CrossesAuthorOnly.cases {q : Query} (h : q.CrossesAuthorOnly) :
    q.predicate.relations = [] ∨
      ∃ conditions, q.predicate.relations = [(Select.authorRelation, conditions)] := by
  obtain ⟨hnodup, hrelation⟩ := h
  generalize q.predicate.relations = relations at hnodup hrelation ⊢
  rcases relations with _ | ⟨⟨r, cs⟩, _ | ⟨⟨r', cs'⟩, rest⟩⟩
  · exact .inl rfl
  · obtain rfl : r = Select.authorRelation := hrelation (r, cs) (by simp)
    exact .inr ⟨cs, rfl⟩
  · obtain rfl : r = Select.authorRelation := hrelation (r, cs) (by simp)
    obtain rfl : r' = Select.authorRelation := hrelation (r', cs') (by simp)
    simp at hnodup

end Query

namespace Select

/-- The selection asks the store for what the query asks for. -/
structure Asks (q : Query) (s : Select) : Prop where
  outputs : List.Forall₂ IsOwn q.projection s.outputs
  nested : List.Forall₂ IsNested q.authorColumns s.nested
  joinsAuthor : s.joinsAuthor = q.crossesAuthor
  clauses : ∃ own author, clausesOf baseColumn q.predicate.fields = .ok own ∧
    clausesOf authorColumn q.authorConditions = .ok author ∧ s.clauses = own ++ author
  limit : s.limit = q.limit

theorem ownOutputs_eq_ok {names : List String} {outputs : List (String × Output)} :
    (names.mapM fun name => do
      let c ← baseColumn name
      .ok (name, (⟨c, name⟩ : Output))) = .ok outputs ↔ List.Forall₂ IsOwn names outputs := by
  have hown : ∀ name o, (do let c ← baseColumn name; .ok (name, ⟨c, name⟩) : Attempt _) = .ok o ↔
      IsOwn name o := by
    intro name o
    rw [Attempt.bind_eq_ok]
    simp only [baseColumn, findColumn_eq_ok]
    constructor
    · rintro ⟨_, ⟨c, hc, rfl⟩, ho⟩
      exact ⟨c, hc, (Except.ok.inj ho).symm⟩
    · rintro ⟨c, hc, rfl⟩
      exact ⟨_, ⟨c, hc, rfl⟩, rfl⟩
  simp only [Attempt.mapM_eq_ok, hown]

theorem nestedOutputs_eq_ok {vs : List Value} {nested : List NestedOutput} :
    vs.mapM identifyingOutput = .ok nested ↔ List.Forall₂ IsNested vs nested := by
  have hnested : ∀ v n, identifyingOutput v = .ok n ↔ IsNested v n := by
    intro v n
    cases v with
    | text name =>
      rw [identifyingOutput, Attempt.bind_eq_ok]
      simp only [authorColumn, findColumn_eq_ok]
      constructor
      · rintro ⟨_, ⟨c, hc, rfl⟩, hn⟩
        exact ⟨name, c, rfl, hc, (Except.ok.inj hn).symm⟩
      · rintro ⟨_, c, hname, hc, rfl⟩
        cases hname
        exact ⟨_, ⟨c, hc, rfl⟩, rfl⟩
    | _ => simp [identifyingOutput, IsNested]
  simp only [Attempt.mapM_eq_ok, hnested]

/-- The part of a query behind the relation adds the clauses and the columns of the author. -/
theorem foldlM_addRelation {q : Query} (hq : q.CrossesAuthorOnly) (s : Select)
    (hs : s.joinsAuthor = false) :
    q.predicate.relations.foldlM (addRelation q.relationProjection) s = (do
      let clauses ← clausesOf authorColumn q.authorConditions
      let nested ← q.authorColumns.mapM identifyingOutput
      .ok ⟨s.outputs, s.nested ++ nested, q.crossesAuthor, s.clauses ++ clauses, s.limit⟩) := by
  rcases hq.cases with hnone | ⟨conditions, hauthor⟩
  · have hcrosses : q.crossesAuthor = false := by simp [Query.crossesAuthor, hnone]
    have hconditions : q.authorConditions = [] := by simp [Query.authorConditions, hnone]
    have hcolumns : q.authorColumns = [] := by simp [Query.authorColumns, hcrosses]
    have hempty : clausesOf authorColumn [] = .ok [] := rfl
    rw [hnone, hconditions, hcolumns, hcrosses, ← hs, hempty]
    show Except.ok s = .ok ⟨s.outputs, s.nested ++ [], s.joinsAuthor, s.clauses ++ [], s.limit⟩
    rw [List.append_nil, List.append_nil]
  · have hcrosses : q.crossesAuthor = true := by
      simp [Query.crossesAuthor, hauthor, Assoc.get?_cons]
    have hconditions : q.authorConditions = conditions := by
      simp [Query.authorConditions, hauthor, Assoc.get?_cons]
    have hcolumns : q.authorColumns =
        (Assoc.get? authorRelation q.relationProjection).getD [] := by
      simp [Query.authorColumns, hcrosses]
    rw [hauthor, hconditions, hcolumns, hcrosses, List.foldlM_cons, addRelation, if_pos rfl]
    cases clausesOf authorColumn conditions with
    | error e => rfl
    | ok clauses =>
      cases ((Assoc.get? authorRelation q.relationProjection).getD []).mapM identifyingOutput with
      | error e => rfl
      | ok nested => rfl

theorem ofQuery_eq_ok {q : Query} (hq : q.CrossesAuthorOnly) {s : Select} :
    ofQuery q = .ok s ↔ Asks q s := by
  rw [ofQuery]
  simp only [foldlM_addRelation hq]
  constructor
  · intro h
    obtain ⟨outputs, houtputs, h⟩ := Attempt.bind_eq_ok.mp h
    obtain ⟨own, hfields, h⟩ := Attempt.bind_eq_ok.mp h
    obtain ⟨author, hauthor, h⟩ := Attempt.bind_eq_ok.mp h
    obtain ⟨nested, hnested, h⟩ := Attempt.bind_eq_ok.mp h
    cases h
    exact ⟨ownOutputs_eq_ok.mp houtputs, nestedOutputs_eq_ok.mp hnested, rfl,
      ⟨own, author, hfields, hauthor, rfl⟩, rfl⟩
  · rintro ⟨houtputs, hnested, hjoins, ⟨own, author, hfields, hauthor, hclauses⟩, hlimit⟩
    refine Attempt.bind_eq_ok.mpr ⟨_, ownOutputs_eq_ok.mpr houtputs, ?_⟩
    refine Attempt.bind_eq_ok.mpr ⟨_, hfields, ?_⟩
    refine Attempt.bind_eq_ok.mpr ⟨_, hauthor, ?_⟩
    refine Attempt.bind_eq_ok.mpr ⟨_, nestedOutputs_eq_ok.mpr hnested, ?_⟩
    obtain ⟨outputs, nested, joinsAuthor, clauses, limit⟩ := s
    cases hjoins
    cases hclauses
    cases hlimit
    rfl

theorem exists_binds_iff_fits {q : Query} (hq : q.CrossesAuthorOnly) :
    (∃ s bounds, ofQuery q = .ok s ∧ List.Forall₂ Clause.Binds s.clauses bounds) ↔ q.Fits := by
  simp only [ofQuery_eq_ok hq]
  constructor
  · rintro ⟨s, bounds, ⟨houtputs, hnested, -, ⟨own, author, hown, hauthor, hclauses⟩, -⟩, hbinds⟩
    rw [hclauses] at hbinds
    -- The bounds of all clauses are parted into those of the blog and those of the author.
    have hbound := Attempt.exists_forall₂.mp ⟨bounds, hbinds⟩
    obtain ⟨ownBounds, hownBinds⟩ := Attempt.exists_forall₂.mpr fun clause hmem =>
      hbound clause (List.mem_append_left _ hmem)
    obtain ⟨authorBounds, hauthorBinds⟩ := Attempt.exists_forall₂.mpr fun clause hmem =>
      hbound clause (List.mem_append_right _ hmem)
    refine ⟨?_, exists_binds_clausesOf.mp ⟨own, ownBounds, hown, hownBinds⟩,
      exists_binds_clausesOf.mp ⟨author, authorBounds, hauthor, hauthorBinds⟩, ?_⟩
    · intro f hf
      obtain ⟨-, c, hc, -⟩ := Attempt.exists_forall₂.mp ⟨_, houtputs⟩ f hf
      exact Option.isSome_of_eq_some hc
    · intro v hv
      obtain ⟨-, name, c, rfl, hc, -⟩ := Attempt.exists_forall₂.mp ⟨_, hnested⟩ v hv
      exact Option.isSome_of_eq_some hc
  · intro h
    obtain ⟨own, ownBounds, hown, hownBinds⟩ := exists_binds_clausesOf.mpr h.fields
    obtain ⟨author, authorBounds, hauthor, hauthorBinds⟩ := exists_binds_clausesOf.mpr h.author
    have hprojection : ∀ f ∈ q.projection, ∃ o, IsOwn f o := by
      intro f hf
      obtain ⟨c, hc⟩ := Option.isSome_iff_exists.mp (h.projection f hf)
      exact ⟨_, c, hc, rfl⟩
    have hcolumns : ∀ v ∈ q.authorColumns, ∃ n, IsNested v n := by
      intro v hv
      obtain ⟨c, hc⟩ := Option.isSome_iff_exists.mp (h.authorColumns v hv)
      obtain ⟨name, hname, hc⟩ := Option.bind_eq_some_iff.mp hc
      exact ⟨_, name, c, Value.text?_eq_some.mp hname, hc, rfl⟩
    obtain ⟨outputs, houtputs⟩ := Attempt.exists_forall₂.mpr hprojection
    obtain ⟨nested, hnested⟩ := Attempt.exists_forall₂.mpr hcolumns
    exact ⟨⟨outputs, nested, q.crossesAuthor, own ++ author, q.limit⟩, ownBounds ++ authorBounds,
      ⟨houtputs, hnested, rfl, ⟨own, author, hown, hauthor, rfl⟩, rfl⟩,
      List.rel_append hownBinds hauthorBinds⟩

theorem isInternal_of_ofQuery {q : Query} (hq : q.CrossesAuthorOnly) {e : Failure}
    (h : ofQuery q = .error e) : e.isInternal := by
  rw [ofQuery] at h
  simp only [foldlM_addRelation hq] at h
  rcases Attempt.bind_eq_error.mp h with houtputs | ⟨outputs, -, h⟩
  · obtain ⟨name, -, hname⟩ := Attempt.exists_of_mapM_eq_error houtputs
    rcases Attempt.bind_eq_error.mp hname with hcolumn | ⟨c, -, hok⟩
    · exact isInternal_of_findColumn hcolumn
    · nomatch hok
  rcases Attempt.bind_eq_error.mp h with hfields | ⟨own, -, h⟩
  · exact isInternal_of_clausesOf hfields
  rcases Attempt.bind_eq_error.mp h with hauthor | ⟨author, -, h⟩
  · exact isInternal_of_clausesOf hauthor
  rcases Attempt.bind_eq_error.mp h with hnested | ⟨nested, -, h⟩
  · obtain ⟨v, -, hv⟩ := Attempt.exists_of_mapM_eq_error hnested
    cases v with
    | text name =>
      rcases Attempt.bind_eq_error.mp hv with hcolumn | ⟨c, -, hok⟩
      · exact isInternal_of_findColumn hcolumn
      · nomatch hok
    | _ =>
      cases hv
      rfl
  · nomatch h

end Select

end QueryGate
