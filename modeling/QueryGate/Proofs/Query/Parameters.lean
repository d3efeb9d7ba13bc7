import QueryGate.Proofs.Pipeline
import QueryGate.Proofs.Query.Outline
import QueryGate.Proofs.Query.Partition
import QueryGate.Proofs.Store.Connection

/-!
# Filter values are parameters

Specs on blogs that differ in the values of their filters send one statement text, with the values
at the same positions among its parameters. Main statement: `Query.exists_sends`. Compiling arranges
the filters by their paths alone (`Predicate.flat_conditionsBehind`), so a pair of filters that
differ in their values stays a pair.
-/

set_option autoImplicit false

namespace QueryGate

namespace Value

def isOperand : Value → Bool
  | .text _ | .int _ | .float _ => true
  | _ => false

def listed : Value → List Value
  | .list items => items
  | v => [v]

inductive Interchangeable : Value → Value → Prop
  | operands {v v' : Value} (h : v.isOperand) (h' : v'.isOperand) : Interchangeable v v'
  | lists {items items' : List Value} (hlength : items.length = items'.length) (hne : items ≠ [])
      (h : ∀ v ∈ items, v.isOperand) (h' : ∀ v ∈ items', v.isOperand) :
      Interchangeable (.list items) (.list items')

end Value

namespace Operator

def operands (op : Operator) (v : Value) : List Value :=
  match op with
  | .contains => [.text (Clause.containsPattern v.shown)]
  | .oneOf => v.listed
  | _ => [v]

/-- The value is a list where the operator looks into one, and a text or a number elsewhere. -/
def Binds (op : Operator) (v : Value) : Prop :=
  match op with
  | .oneOf => ∃ items, v = .list items
  | _ => v.isOperand

def clause (op : Operator) (c : ColumnRef) (v : Value) : Clause :=
  match op with
  | .equals => .compare c .equal v
  | .contains => .like c (Clause.containsPattern v.shown)
  | .oneOf => .oneOf c v.listed
  | .below => .compare c .less v
  | .atMost => .compare c .lessOrEqual v
  | .above => .compare c .greater v
  | .atLeast => .compare c .greaterOrEqual v

theorem ofOperator_of_binds {op : Operator} {v : Value} (h : op.Binds v) (c : ColumnRef) :
    Clause.ofOperator op c v = .ok (op.clause c v) := by
  cases op with
  | oneOf =>
    obtain ⟨items, rfl⟩ := h
    rfl
  | _ =>
    cases v with
    | text _ | int _ | float _ => rfl
    | _ => cases h

theorem values_clause (op : Operator) (c : ColumnRef) (v : Value) :
    (op.clause c v).values = op.operands v := by
  cases op <;> rfl

theorem blank_clause {op : Operator} {v v' : Value}
    (h : (op.operands v).length = (op.operands v').length) (c : ColumnRef) :
    (op.clause c v).blank = (op.clause c v').blank := by
  cases op with
  | oneOf =>
    show Clause.oneOf c (v.listed.map fun _ => .null) = .oneOf c (v'.listed.map fun _ => .null)
    rw [List.map_const', List.map_const']
    exact congrArg (fun n => Clause.oneOf c (List.replicate n .null)) h
  | _ => rfl

theorem binds_of_interchangeable {op : Operator} {v v' : Value} (h : v.Interchangeable v')
    (hv : Whitelist.acceptsValue op v) (hv' : Whitelist.acceptsValue op v') :
    op.Binds v ∧ op.Binds v' ∧ (op.operands v).length = (op.operands v').length := by
  cases h with
  | operands h h' =>
    cases op with
    | oneOf => cases v <;> cases h <;> cases hv
    | _ => exact ⟨h, h', rfl⟩
  | lists hlength _ _ _ =>
    cases op with
    | oneOf => exact ⟨⟨_, rfl⟩, ⟨_, rfl⟩, hlength⟩
    | _ => cases hv

end Operator

/-- The filters differ in their values only, which can replace each other. -/
structure Filter.Alike (f f' : Filter) : Prop where
  field : f.field = f'.field
  op : f.op = f'.op
  value : f.value.Interchangeable f'.value

def Filter.operands (f : Filter) : List Value := f.op.operands f.value

/-- Both of the filters are bound, and their clauses on a column differ in the values only. -/
structure Filter.Twins (p : Filter × Filter) : Prop where
  path : p.1.path = p.2.path
  op : p.1.op = p.2.op
  binds : p.1.op.Binds p.1.value ∧ p.2.op.Binds p.2.value
  length : p.1.operands.length = p.2.operands.length

theorem Filter.Alike.twins {f f' : Filter} (h : f.Alike f')
    (hf : Whitelist.acceptsValue f.op f.value) (hf' : Whitelist.acceptsValue f'.op f'.value) :
    Filter.Twins (f, f') := by
  obtain ⟨field, op, value⟩ := f
  obtain ⟨field', op', value'⟩ := f'
  obtain ⟨rfl, rfl, hvalue⟩ := h
  obtain ⟨hbinds, hbinds', hlength⟩ := Operator.binds_of_interchangeable hvalue hf hf'
  exact ⟨rfl, rfl, ⟨hbinds, hbinds'⟩, hlength⟩

def Filter.located (f : Filter) : String × Condition := (f.path.column, f.condition)

theorem Filter.clauseOf_located {f : Filter} (h : f.op.Binds f.value)
    (column : String → Attempt ColumnRef) :
    Select.clauseOf column f.located =
      (column f.path.column).map fun c => f.op.clause c f.value := by
  have hclause : ∀ c, Clause.ofCondition f.condition c = .ok (f.op.clause c f.value) := by
    intro c
    rw [Clause.ofCondition, Filter.condition, Operator.ofName?_name]
    exact Operator.ofOperator_of_binds h c
  rw [Select.clauseOf, Filter.located]
  cases column f.path.column with
  | error e => rfl
  | ok c => exact hclause c

section Arrange

variable {α β : Type} (path : α → FieldPath)

def columnsOf (paths : List FieldPath) (relation : Option String) : List String :=
  ((paths.filter (·.relation = relation)).map (·.column)).eraseDups

def arrange (entries : List α) (relation : Option String) : List α :=
  (columnsOf (entries.map path) relation).flatMap fun column =>
    entries.filter (path · = ⟨relation, column⟩)

theorem map_arrange (f : β → α) (entries : List β) (relation : Option String) :
    (arrange (path ∘ f) entries relation).map f = arrange path (entries.map f) relation := by
  simp only [arrange, List.map_flatMap, List.filter_map, List.map_map, Function.comp_def]

theorem arrange_congr {path path' : α → FieldPath} {entries : List α}
    (h : ∀ x ∈ entries, path x = path' x) (relation : Option String) :
    arrange path entries relation = arrange path' entries relation := by
  have hgroup : ∀ column, entries.filter (path · = ⟨relation, column⟩) =
      entries.filter (path' · = ⟨relation, column⟩) := by
    intro column
    apply List.filter_congr
    intro x hx
    rw [h x hx]
  rw [arrange, arrange, List.map_congr_left h]
  simp only [hgroup]

theorem flatMap_filter_perm {κ : Type} [DecidableEq κ] (key : α → κ) {keys : List κ}
    (h : keys.Nodup) (entries : List α) :
    (keys.flatMap fun k => entries.filter (key · = k)).Perm (entries.filter (key · ∈ keys)) := by
  induction keys with
  | nil => simp
  | cons k keys ih =>
    obtain ⟨hk, hkeys⟩ := List.nodup_cons.mp h
    have hsplit := List.filter_append_perm (fun x => decide (key x = k))
      (entries.filter (key · ∈ k :: keys))
    rw [List.filter_filter, List.filter_filter] at hsplit
    have hhead : (entries.filter fun x => decide (key x = k) && decide (key x ∈ k :: keys)) =
        entries.filter (key · = k) := by
      apply List.filter_congr
      intro x _
      by_cases hx : key x = k <;> simp [hx]
    have hrest : (entries.filter fun x => !decide (key x = k) && decide (key x ∈ k :: keys)) =
        entries.filter (key · ∈ keys) := by
      apply List.filter_congr
      intro x _
      by_cases hx : key x = k
      · simp [hx, hk]
      · simp [hx]
    rw [hhead, hrest] at hsplit
    exact ((ih hkeys).append_left _).trans hsplit

theorem arrange_perm (entries : List α) (relation : Option String) :
    (arrange path entries relation).Perm
      (entries.filter fun x => (path x).relation = relation) := by
  have hnodup : ((columnsOf (entries.map path) relation).map (FieldPath.mk relation)).Nodup := by
    apply List.Nodup.map
    · intro column column' h
      exact (FieldPath.mk.inj h).2
    · exact Assoc.nodup_eraseDups _
  have hperm := flatMap_filter_perm path hnodup entries
  rw [List.flatMap_map] at hperm
  have hkeys : (entries.filter fun x =>
      path x ∈ (columnsOf (entries.map path) relation).map (FieldPath.mk relation)) =
        entries.filter fun x => (path x).relation = relation := by
    apply List.filter_congr
    intro x hx
    rw [decide_eq_decide, columnsOf]
    simp only [List.mem_map, List.mem_eraseDups, List.mem_filter, decide_eq_true_eq]
    constructor
    · rintro ⟨column, -, hcolumn⟩
      rw [← hcolumn]
    · rintro rfl
      exact ⟨(path x).column, ⟨path x, ⟨⟨x, hx, rfl⟩, rfl⟩, rfl⟩, rfl⟩
  rw [hkeys] at hperm
  exact hperm

/-- Entries on the table itself and behind one relation are all entries, if there are no others. -/
theorem arrange_append_perm {entries : List α} {relation : String}
    (h : ∀ x ∈ entries, (path x).relation = none ∨ (path x).relation = some relation) :
    (arrange path entries none ++ arrange path entries (some relation)).Perm entries := by
  have hsplit := List.filter_append_perm (fun x => decide ((path x).relation = none)) entries
  have hrest : (entries.filter fun x => !decide ((path x).relation = none)) =
      entries.filter fun x => (path x).relation = some relation := by
    apply List.filter_congr
    intro x hx
    rcases h x hx with hnone | hsome
    · simp [hnone]
    · simp [hsome]
  rw [hrest] at hsplit
  exact ((arrange_perm path entries none).append
    (arrange_perm path entries (some relation))).trans hsplit

end Arrange

/-- Behind a relation, or on the table itself, stand the filters arranged by their paths. -/
theorem Predicate.flat_conditionsBehind (filters : List Filter) (relation : Option String) :
    ((ofFilters filters).conditionsBehind relation).flat =
      (arrange Filter.path filters relation).map Filter.located := by
  have hnodup := (grouped_conditionsBehind (grouped_ofFilters filters) relation).nodup
  have hkeys : Assoc.keys ((ofFilters filters).conditionsBehind relation) =
      columnsOf (filters.map Filter.path) relation := by
    rw [keys_conditionsBehind, columnsBehind, columnsOf, List.filter_map, List.map_map]
    rfl
  have hgroup : ∀ g ∈ (ofFilters filters).conditionsBehind relation,
      (g.2.map fun cond => (g.1, cond)) =
        (filters.filter (·.path = ⟨relation, g.1⟩)).map Filter.located := by
    intro g hg
    have hconditions := getD_conditionsBehind filters relation g.1
    rw [Assoc.get?_of_mem hnodup hg, Option.getD_some] at hconditions
    rw [hconditions, List.map_map]
    apply List.map_congr_left
    intro f hf
    have hpath : f.path = ⟨relation, g.1⟩ := of_decide_eq_true (List.mem_filter.mp hf).2
    show (g.1, f.condition) = (f.path.column, f.condition)
    rw [hpath]
  rw [Conditions.flat, List.flatMap_congr hgroup, arrange, ← hkeys, List.map_flatMap, Assoc.keys,
    List.flatMap_map]

/-- The clauses differ in their values only, which are those of the filters. -/
structure Clause.Twins (pairs : List (Filter × Filter)) (clauses clauses' : List Clause) :
    Prop where
  blank : clauses.map Clause.blank = clauses'.map Clause.blank
  values : clauses.flatMap Clause.values = pairs.flatMap (·.1.operands)
  values' : clauses'.flatMap Clause.values = pairs.flatMap (·.2.operands)

theorem Clause.Twins.append {pairs pairs' : List (Filter × Filter)}
    {own own' author author' : List Clause} (h : Clause.Twins pairs own own')
    (h' : Clause.Twins pairs' author author') :
    Clause.Twins (pairs ++ pairs') (own ++ author) (own' ++ author') where
  blank := by rw [List.map_append, List.map_append, h.blank, h'.blank]
  values := by rw [List.flatMap_append, List.flatMap_append, h.values, h'.values]
  values' := by rw [List.flatMap_append, List.flatMap_append, h.values', h'.values']

section Clauses

variable {column : String → Attempt ColumnRef}

theorem Filter.Twins.exists_clause {p : Filter × Filter} (h : Filter.Twins p) {clause : Clause}
    (hclause : Select.clauseOf column p.1.located = .ok clause) :
    ∃ clause', Select.clauseOf column p.2.located = .ok clause' ∧
      Clause.Twins [p] [clause] [clause'] := by
  rw [Filter.clauseOf_located h.binds.1, Attempt.map_eq_ok] at hclause
  obtain ⟨c, hc, rfl⟩ := hclause
  refine ⟨p.2.op.clause c p.2.value, ?_, ?_, ?_, ?_⟩
  · rw [Filter.clauseOf_located h.binds.2, ← h.path, hc]
    rfl
  · have hlength := h.length
    rw [Filter.operands, Filter.operands, h.op] at hlength
    rw [h.op]
    exact congrArg (fun clause => [clause]) (Operator.blank_clause hlength c)
  · simp [Operator.values_clause, Filter.operands]
  · simp [Operator.values_clause, Filter.operands]

theorem exists_twin_clauses {pairs : List (Filter × Filter)} (h : ∀ p ∈ pairs, Filter.Twins p)
    {clauses : List Clause}
    (hclauses : (pairs.map (·.1.located)).mapM (Select.clauseOf column) = .ok clauses) :
    ∃ clauses', (pairs.map (·.2.located)).mapM (Select.clauseOf column) = .ok clauses' ∧
      Clause.Twins pairs clauses clauses' := by
  induction pairs generalizing clauses with
  | nil =>
    cases hclauses
    exact ⟨[], rfl, rfl, rfl, rfl⟩
  | cons p pairs ih =>
    obtain ⟨hp, hpairs⟩ := List.forall_mem_cons.mp h
    rw [List.map_cons, List.mapM_cons] at hclauses
    obtain ⟨clause, hclause, hclauses⟩ := Attempt.bind_eq_ok.mp hclauses
    obtain ⟨rest, hrest, hclauses⟩ := Attempt.bind_eq_ok.mp hclauses
    cases hclauses
    obtain ⟨clause', hclause', htwins⟩ := hp.exists_clause hclause
    obtain ⟨rest', hrest', htwins'⟩ := ih hpairs hrest
    refine ⟨clause' :: rest', ?_, htwins.append htwins'⟩
    rw [List.map_cons, List.mapM_cons]
    exact Attempt.bind_eq_ok.mpr ⟨_, hclause', Attempt.bind_eq_ok.mpr ⟨_, hrest', rfl⟩⟩

end Clauses

/-- The specs differ in the values of their filters only, which can replace each other. -/
structure Spec.Alike (s s' : Spec) : Prop where
  table : s.table = s'.table
  fields : s.fields = s'.fields
  limit : s.limit = s'.limit
  filters : List.Forall₂ Filter.Alike s.filters s'.filters

/-- The pairs are the filters of the specs, which differ in nothing else. -/
structure Spec.Paired (pairs : List (Filter × Filter)) (s s' : Spec) : Prop where
  table : s.table = s'.table
  fields : s.fields = s'.fields
  limit : s.limit = s'.limit
  left : pairs.map Prod.fst = s.filters
  right : pairs.map Prod.snd = s'.filters
  twins : ∀ p ∈ pairs, Filter.Twins p

theorem Spec.Alike.paired {w : Whitelist} {raw raw' : Value} {s s' : Spec} (h : s.Alike s')
    (hs : w.validate raw = .ok s) (hs' : w.validate raw' = .ok s') :
    Spec.Paired (s.filters.zip s'.filters) s s' := by
  have hlength := h.filters.length_eq
  have haccepts : ∀ {raw : Value} {s : Spec}, w.validate raw = .ok s →
      ∀ f ∈ s.filters, Whitelist.acceptsValue f.op f.value := by
    intro raw s hs f hf
    have hd := Whitelist.validate_eq_ok.mp hs
    obtain ⟨t, ht⟩ := Option.isSome_iff_exists.mp hd.declared
    rw [hd.filters] at hf
    exact (Whitelist.allowsPath_of_mem_sanitizeFilters ht hf).2
  refine ⟨h.table, h.fields, h.limit, List.map_fst_zip hlength.le, List.map_snd_zip hlength.ge, ?_⟩
  rintro ⟨f, f'⟩ hp
  have halike : f.Alike f' := (List.forall₂_iff_zip.mp h.filters).2 hp
  obtain ⟨hf, hf'⟩ := List.of_mem_zip hp
  exact halike.twins (haccepts hs f hf) (haccepts hs' f' hf')

namespace Spec.Paired

variable {pairs : List (Filter × Filter)} {s s' : Spec} (h : Spec.Paired pairs s s')
include h

theorem swap : Spec.Paired (pairs.map Prod.swap) s' s where
  table := h.table.symm
  fields := h.fields.symm
  limit := h.limit.symm
  left := by
    rw [← h.right, List.map_map]
    rfl
  right := by
    rw [← h.left, List.map_map]
    rfl
  twins := by
    intro p hp
    obtain ⟨p, hmem, rfl⟩ := List.mem_map.mp hp
    have htwins := h.twins p hmem
    exact ⟨htwins.path.symm, htwins.op.symm, htwins.binds.symm, htwins.length.symm⟩

theorem sameOutline : s.SameOutline s' := by
  refine ⟨h.table, h.fields, h.limit, ?_⟩
  intro relation
  simp only [Spec.Crosses, ← h.left, ← h.right, List.mem_map, exists_exists_and_eq_and]
  constructor
  · rintro ⟨p, hp, hrelation⟩
    exact ⟨p, hp, (h.twins p hp).path ▸ hrelation⟩
  · rintro ⟨p, hp, hrelation⟩
    exact ⟨p, hp, (h.twins p hp).path ▸ hrelation⟩

end Spec.Paired

namespace Query

def arrangedPairs (pairs : List (Filter × Filter)) (relation : Option String) :
    List (Filter × Filter) :=
  arrange (fun p => p.1.path) pairs relation

variable {w : Whitelist} {pairs : List (Filter × Filter)} {s s' : Spec}

theorem clausesOf_left (h : Spec.Paired pairs s s') (column : String → Attempt ColumnRef)
    (relation : Option String) :
    Select.clausesOf column ((ofSpec w s).predicate.conditionsBehind relation) =
      ((arrangedPairs pairs relation).map (·.1.located)).mapM (Select.clauseOf column) := by
  have harrange := map_arrange Filter.path Prod.fst pairs relation
  rw [h.left] at harrange
  rw [Select.clausesOf_eq, ofSpec, Predicate.flat_conditionsBehind, ← harrange, List.map_map]
  rfl

theorem clausesOf_right (h : Spec.Paired pairs s s') (column : String → Attempt ColumnRef)
    (relation : Option String) :
    Select.clausesOf column ((ofSpec w s').predicate.conditionsBehind relation) =
      ((arrangedPairs pairs relation).map (·.2.located)).mapM (Select.clauseOf column) := by
  have harrange := map_arrange Filter.path Prod.snd pairs relation
  have hpath : arrange (Filter.path ∘ Prod.snd) pairs relation = arrangedPairs pairs relation := by
    refine arrange_congr ?_ relation
    intro p hp
    exact (h.twins p hp).path.symm
  rw [h.right, hpath] at harrange
  rw [Select.clausesOf_eq, ofSpec, Predicate.flat_conditionsBehind, ← harrange, List.map_map]
  rfl

theorem exists_clausesOf_right (h : Spec.Paired pairs s s') (relation : Option String)
    {column : String → Attempt ColumnRef} {clauses : List Clause}
    (hclauses : Select.clausesOf column ((ofSpec w s).predicate.conditionsBehind relation) =
      .ok clauses) :
    ∃ clauses', Select.clausesOf column ((ofSpec w s').predicate.conditionsBehind relation) =
        .ok clauses' ∧
      Clause.Twins (arrangedPairs pairs relation) clauses clauses' := by
  rw [clausesOf_left h] at hclauses
  rw [clausesOf_right h]
  refine exists_twin_clauses ?_ hclauses
  intro p hp
  have hmem := (arrange_perm (fun p : Filter × Filter => p.1.path) pairs relation).subset hp
  exact h.twins p (List.mem_filter.mp hmem).1

def allPairs (pairs : List (Filter × Filter)) : List (Filter × Filter) :=
  arrangedPairs pairs none ++ arrangedPairs pairs (some Select.authorRelation)

/-- The selections of paired specs differ in their values only, and these are in pairs. -/
theorem exists_twin_selection (h : Spec.Paired pairs s s') {selection : Select}
    (hs : Select.ofQuery (ofSpec w s) = .ok selection) :
    ∃ selection', Select.ofQuery (ofSpec w s') = .ok selection' ∧
      selection.blank = selection'.blank ∧
      (∀ d, selection.values d =
        (allPairs pairs).flatMap (·.1.operands) ++ Sql.rangeParams d s.limit) ∧
      ∀ d, selection'.values d =
        (allPairs pairs).flatMap (·.2.operands) ++ Sql.rangeParams d s'.limit := by
  have hrelations := Select.relation_of_ofQuery hs
  have hasks := (Select.ofQuery_eq_ok (crossesAuthorOnly_ofSpec hrelations)).mp hs
  obtain ⟨own, author, hown, hauthor, hclauses⟩ := hasks.clauses
  obtain ⟨own', hown', hownTwins⟩ := exists_clausesOf_right (w := w) h none hown
  obtain ⟨author', hauthor', hauthorTwins⟩ :=
    exists_clausesOf_right (w := w) h (some Select.authorRelation) hauthor
  have htwins := hownTwins.append hauthorTwins
  have hasks' := hasks.of_outline h.sameOutline hown' hauthor'
  have hcrosses := crossesAuthorOnly_of_outline h.sameOutline hrelations
  have hlimit : selection.limit = s.limit := hasks.limit
  refine ⟨_, (Select.ofQuery_eq_ok hcrosses).mpr hasks', ?_, ?_, ?_⟩
  · rw [Select.blank, Select.blank, hclauses, htwins.blank]
  · intro d
    rw [Select.values, hclauses, htwins.values, hlimit]
    rfl
  · intro d
    rw [Select.values, htwins.values', hlimit, h.limit]
    rfl

theorem allPairs_perm (h : Spec.Paired pairs s s')
    (hrelations : ∀ g ∈ (ofSpec w s).predicate.relations, g.1 = Select.authorRelation) :
    (allPairs pairs).Perm pairs := by
  refine arrange_append_perm _ ?_
  intro p hp
  cases hrelation : p.1.path.relation with
  | none => exact .inl rfl
  | some relation =>
    have hmem : p.1 ∈ s.filters := h.left ▸ List.mem_map_of_mem hp
    have hkey : relation ∈ Assoc.keys (ofSpec w s).predicate.relations :=
      Predicate.mem_keys_relations.mpr ⟨p.1, hmem, hrelation⟩
    obtain ⟨g, hg, rfl⟩ := List.mem_map.mp hkey
    exact .inr (congrArg some (hrelations g hg))

theorem madeText?_eq {q q' : Query} {selection selection' : Select}
    (hq : Select.ofQuery q = .ok selection) (hq' : Select.ofQuery q' = .ok selection')
    (hblank : selection.blank = selection'.blank) (db : Database) (timeout : Value)
    (c : Connection) : madeText? db timeout q c = madeText? db timeout q' c := by
  have htext : (Sql.selectText db.dialect selection).text =
      (Sql.selectText db.dialect selection').text := by
    rw [← Sql.text_selectText_blank, hblank, Sql.text_selectText_blank]
  rw [madeText?, madeText?, hq, hq']
  cases (Connection.prepare db timeout c.begun).1 with
  | error e => rfl
  | ok _ => exact congrArg some htext

theorem madeText?_of_error {q : Query} {e : Failure} (hq : Select.ofQuery q = .error e)
    (db : Database) (timeout : Value) (c : Connection) : madeText? db timeout q c = none := by
  rw [madeText?, hq]
  cases (Connection.prepare db timeout c.begun).1 <;> rfl

/-- Accepted specs on blogs that differ in the values of their filters only, texts and numbers or
lists of as many of them, make one statement text, or none, and each sends it if its values are
taken. The values are bound at the same positions, pair by pair, and nothing else that is sent
depends on the spec. -/
theorem exists_sends {raw raw' : Value} (hs : w.validate raw = .ok s)
    (hs' : w.validate raw' = .ok s') (hblog : s.table = "Blog") (h : s.Alike s') :
    ∃ pairs : List (Filter × Filter), pairs.Perm (s.filters.zip s'.filters) ∧
      (∀ p ∈ pairs, p.1.operands.length = p.2.operands.length) ∧
      ∀ (db : Database) (timeout : Value) (c : Connection), ∃ text? : Option String,
        Sends db timeout (ofSpec w s) (some s.table) c
          (text?.filter fun _ => (ofSpec w s).isTakenBy db)
          (pairs.flatMap (·.1.operands) ++ Sql.rangeParams db.dialect s.limit) ∧
        Sends db timeout (ofSpec w s') (some s'.table) c
          (text?.filter fun _ => (ofSpec w s').isTakenBy db)
          (pairs.flatMap (·.2.operands) ++ Sql.rangeParams db.dialect s'.limit) := by
  have hpaired := h.paired hs hs'
  have hserved := ofName?_servedTable w hblog
  have hserved' := ofName?_servedTable w (h.table ▸ hblog)
  cases hselection : Select.ofQuery (ofSpec w s) with
  | ok selection =>
    obtain ⟨selection', hselection', hblank, hvalues, hvalues'⟩ :=
      exists_twin_selection hpaired hselection
    have hperm := allPairs_perm hpaired (Select.relation_of_ofQuery hselection)
    refine ⟨allPairs (s.filters.zip s'.filters), hperm, ?_, ?_⟩
    · intro p hp
      exact (hpaired.twins p (hperm.subset hp)).length
    · intro db timeout c
      refine ⟨madeText? db timeout (ofSpec w s) c, sends hserved db ?_ timeout c, ?_⟩
      · rintro _ hother
        cases hselection.symm.trans hother
        exact hvalues db.dialect
      · rw [madeText?_eq hselection hselection' hblank]
        refine sends hserved' db ?_ timeout c
        rintro _ hother
        cases hselection'.symm.trans hother
        exact hvalues' db.dialect
  | error e =>
    -- A selection for the second spec would give one for the first.
    have hnone : ∀ selection', Select.ofQuery (ofSpec w s') ≠ .ok selection' := by
      intro selection' hselection'
      obtain ⟨_, hfirst, -⟩ := exists_twin_selection hpaired.swap hselection'
      rw [hselection] at hfirst
      cases hfirst
    obtain ⟨e', hselection'⟩ := Attempt.exists_error_of_not_ok hnone
    refine ⟨_, .refl _, fun p hp => (hpaired.twins p hp).length, ?_⟩
    intro db timeout c
    refine ⟨none, ?_, ?_⟩
    · rw [← madeText?_of_error hselection db timeout c]
      refine sends hserved db ?_ timeout c
      intro _ hother
      rw [hselection] at hother
      cases hother
    · rw [← madeText?_of_error hselection' db timeout c]
      refine sends hserved' db ?_ timeout c
      intro _ hother
      rw [hselection'] at hother
      cases hother

def searchRequest (reader title : String) (likes : List Value) : Value :=
  .object [("action", .text "select"), ("table", .text "Blog"), ("fields", .list [.text "id"]),
    ("filters", .list [
      .object [("field", .text "user.username"), ("op", .text "contains"), ("value", .text reader)],
      .object [("field", .text "likeCount"), ("op", .text "in"), ("value", .list likes)],
      .object [("field", .text "title"), ("op", .text "equals"), ("value", .text title)],
      .object [("field", .text "likeCount"), ("op", .text "gte"), ("value", .int 1)]])]

def searchSpec (reader title : String) (likes : List Value) : Spec :=
  ⟨"Blog", ["id"], [⟨"user.username", .contains, .text reader⟩,
    ⟨"likeCount", .oneOf, .list likes⟩, ⟨"title", .equals, .text title⟩,
    ⟨"likeCount", .atLeast, .int 1⟩], 10⟩

theorem alike_searchSpec (reader title reader' title' : String) {likes likes' : List Value}
    (h : Value.Interchangeable (.list likes) (.list likes')) :
    (searchSpec reader title likes).Alike (searchSpec reader' title' likes') := by
  refine ⟨rfl, rfl, rfl, ?_⟩
  exact .cons ⟨rfl, rfl, .operands rfl rfl⟩ (.cons ⟨rfl, rfl, h⟩
    (.cons ⟨rfl, rfl, .operands rfl rfl⟩ (.cons ⟨rfl, rfl, .operands rfl rfl⟩ .nil)))

theorem exists_sends_searchSpec :
    let plain := searchSpec "ada" "notes" [.int 0, .int 7]
    let crafted :=
      searchSpec "'; DROP TABLE \"User\"; --" "' OR '1'='1" [.text "0) OR (1=1", .int 7]
    Whitelist.standard.validate (searchRequest "ada" "notes" [.int 0, .int 7]) = .ok plain ∧
      Whitelist.standard.validate (searchRequest "'; DROP TABLE \"User\"; --" "' OR '1'='1"
        [.text "0) OR (1=1", .int 7]) = .ok crafted ∧
      plain.Alike crafted ∧
      ∃ pairs : List (Filter × Filter), pairs.Perm (plain.filters.zip crafted.filters) ∧
        (∀ p ∈ pairs, p.1.operands.length = p.2.operands.length) ∧
        ∀ (db : Database) (timeout : Value) (c : Connection), ∃ text? : Option String,
          Sends db timeout (ofSpec Whitelist.standard plain) (some plain.table) c
            (text?.filter fun _ => (ofSpec Whitelist.standard plain).isTakenBy db)
            (pairs.flatMap (·.1.operands) ++ Sql.rangeParams db.dialect plain.limit) ∧
          Sends db timeout (ofSpec Whitelist.standard crafted) (some crafted.table) c
            (text?.filter fun _ => (ofSpec Whitelist.standard crafted).isTakenBy db)
            (pairs.flatMap (·.2.operands) ++ Sql.rangeParams db.dialect crafted.limit) := by
  intro plain crafted
  have hplain : Whitelist.standard.validate (searchRequest "ada" "notes" [.int 0, .int 7]) =
      .ok plain :=
    Whitelist.validate_eq_ok.mpr
      ⟨rfl, rfl, by cbv, by cbv, List.cons_ne_nil _ _, by cbv, by cbv⟩
  have hcrafted : Whitelist.standard.validate (searchRequest "'; DROP TABLE \"User\"; --"
      "' OR '1'='1" [.text "0) OR (1=1", .int 7]) = .ok crafted :=
    Whitelist.validate_eq_ok.mpr
      ⟨rfl, rfl, by cbv, by cbv, List.cons_ne_nil _ _, by cbv, by cbv⟩
  have halike : plain.Alike crafted := by
    refine alike_searchSpec _ _ _ _ (.lists rfl (List.cons_ne_nil _ _) ?_ ?_)
    · simp [Value.isOperand]
    · simp [Value.isOperand]
  exact ⟨hplain, hcrafted, halike, exists_sends hplain hcrafted rfl halike⟩

end Query

end QueryGate
