import QueryGate.Proofs.Query.Admission
import QueryGate.Proofs.Query.Lookup
import QueryGate.Proofs.Query.Outline
import QueryGate.Proofs.Store.Coherence

/-!
# The two sides of a range

Beside the other filters of a spec, a range filter and its complement divide the blogs: each blog
that the others admit and that has a cell in the column is on one side and on no other. It equals a
value when it is on both of the sides that meet there. Main statement: `Query.operators_coherent`.
-/

set_option autoImplicit false

namespace QueryGate

def Spec.asking (s : Spec) (f : Filter) : Spec := { s with filters := s.filters ++ [f] }

namespace Filter

variable {f : Filter}

theorem holds_condition (f : Filter) (cell : Cell) :
    f.condition.holds cell = f.op.holds cell f.value := by
  rw [Condition.holds, condition, Operator.ofName?_name]
  rfl

theorem isSome_cell? (hstorable : f.isStorable) {store : Store} {b : Blog}
    (hreached : f.path.relation = none ∨ (store.author? b).isSome) :
    (f.path.cell? store b).isSome := by
  obtain ⟨column, hcolumn, -⟩ := (Option.any_eq_true _ _).mp hstorable
  unfold FieldPath.cell?
  cases hrelation : f.path.relation with
  | none =>
    rw [FieldPath.column?_own hrelation] at hcolumn
    obtain ⟨cell, hcell, -⟩ := b.exists_cell hcolumn
    exact Option.isSome_of_eq_some hcell
  | some relation =>
    have hpath : f.path = ⟨some relation, f.path.column⟩ := by rw [← hrelation]
    rw [hpath, FieldPath.column?] at hcolumn
    obtain ⟨-, hauthor⟩ := Option.ite_none_right_eq_some.mp hcolumn
    rw [hrelation] at hreached
    obtain ⟨u, hu⟩ := Option.isSome_iff_exists.mp (hreached.resolve_left (Option.some_ne_none _))
    obtain ⟨cell, hcell, -⟩ := u.exists_cell hauthor
    rw [hu]
    exact Option.isSome_of_eq_some hcell

end Filter

/-- Of the blogs that pass a test each passes one of two others, and no blog passes both. -/
structure Parts (whole low high : Blog → Bool) : Prop where
  either : ∀ b, whole b ↔ low b ∨ high b
  apart : ∀ b, ¬(low b ∧ high b)

theorem Parts.perm_filter {whole low high : Blog → Bool} (h : Parts whole low high)
    (blogs : List Blog) : (blogs.filter low ++ blogs.filter high).Perm (blogs.filter whole) := by
  have hlow : ∀ b, low b = (low b && whole b) := by
    intro b
    rw [Bool.eq_iff_iff, Bool.and_eq_true]
    exact ⟨fun hb => ⟨hb, (h.either b).mpr (.inl hb)⟩, And.left⟩
  have hhigh : ∀ b, high b = (!low b && whole b) := by
    intro b
    rw [Bool.eq_iff_iff, Bool.and_eq_true, Bool.not_eq_true', ← Bool.not_eq_true]
    constructor
    · intro hb
      exact ⟨fun hl => h.apart b ⟨hl, hb⟩, (h.either b).mpr (.inr hb)⟩
    · rintro ⟨hl, hwhole⟩
      exact ((h.either b).mp hwhole).resolve_left hl
  -- Within the whole, the high side is what is not on the low side.
  have hsides : blogs.filter low ++ blogs.filter high =
      (blogs.filter whole).filter low ++ (blogs.filter whole).filter (!low ·) := by
    rw [List.filter_filter, List.filter_filter, ← funext hlow, ← funext hhigh]
  rw [hsides]
  exact List.filter_append_perm low (blogs.filter whole)

namespace Query

/-- The query can be answered, and the store bears it. -/
structure Taken (q : Query) (store : Store) : Prop where
  answerable : q.Answerable
  within : q.Within store

/-- The rows that a database has for the query are those of the blogs, the newest that it admits. -/
structure Answers (q : Query) (db : Database) (store : Store) (timeout : Value)
    (table : Option String) (chosen : List Blog) : Prop where
  newest : Newest store.blogs (q.admits store) q.limit.toNat chosen
  rows : q.rowsOn db store timeout table = .ok (chosen.map (q.describe store))

def Shows (q : Query) (db : Database) (store : Store) (timeout : Value) (table : Option String)
    (b : Blog) : Prop :=
  ∃ chosen, q.Answers db store timeout table chosen ∧ b ∈ chosen

variable {w : Whitelist} {s : Spec}

section Shown

variable {db : Database} (hdb : db.KeepsBounds) {doc : Value}
  (hw : Whitelist.ofDocument doc = .ok w) {store : Store} (hstore : store.Sound) (timeout : Value)
  {table : Option String} (htable : StoreTable.ofName? ((ofSpec w s).servedTable table) =
    some .blog) (hlimit : store.blogs.length ≤ s.limit.toNat)
include hdb hw hstore htable hlimit

theorem exists_answers (hq : (ofSpec w s).Taken store) :
    ∃ chosen, (ofSpec w s).Answers db store timeout table chosen ∧
      chosen.Perm (store.blogs.filter ((ofSpec w s).admits store)) := by
  obtain ⟨chosen, hchosen, hrows, -⟩ := exists_newest_rows hw hq.answerable hstore timeout htable
  rw [← rowsOn_eq_rows hdb timeout hq.within] at hrows
  exact ⟨chosen, ⟨hchosen, hrows⟩, hchosen.perm (List.countP_le_length.trans hlimit)⟩

theorem shows_iff (hq : (ofSpec w s).Taken store) (b : Blog) :
    (ofSpec w s).Shows db store timeout table b ↔
      b ∈ store.blogs ∧ (ofSpec w s).admits store b := by
  constructor
  · rintro ⟨chosen, hanswers, hb⟩
    exact hanswers.newest.mem b hb
  · intro hb
    obtain ⟨chosen, hanswers, hperm⟩ :=
      exists_answers hdb hw hstore timeout htable hlimit hq
    exact ⟨chosen, hanswers, hperm.mem_iff.mpr (List.mem_filter.mpr hb)⟩

end Shown

def asking (w : Whitelist) (s : Spec) (field : String) (op : Operator) (v : Value) : Query :=
  ofSpec w (s.asking ⟨field, op, v⟩)

def admitsWith (w : Whitelist) (s : Spec) (p : FieldPath) (store : Store) (b : Blog) : Bool :=
  (ofSpec w s).admits store b && (p.cell? store b).isSome

/-- What a database shows to filters on the field, beside the other filters of the spec, agrees from
operator to operator, as long as the filters can be taken. -/
structure Coherent (db : Database) (w : Whitelist) (store : Store) (s : Spec) (field : String)
    (timeout : Value) (table : Option String) : Prop where
  answered : ∀ op v, (asking w s field op v).Taken store →
    ∃ chosen, (asking w s field op v).Answers db store timeout table chosen
  reached : ∀ op v, (asking w s field op v).Taken store → ∀ b,
    (FieldPath.ofName field).relation = none ∨ (store.author? b).isSome →
      admitsWith w s (FieldPath.ofName field) store b = (ofSpec w s).admits store b
  range : ∀ op op' v, op.complement? = some op' → v.isOrdered →
    (asking w s field op v).Taken store → (asking w s field op' v).Taken store →
    ∀ b ∈ store.blogs, admitsWith w s (FieldPath.ofName field) store b →
      Xor ((asking w s field op v).Shows db store timeout table b)
        ((asking w s field op' v).Shows db store timeout table b)
  equal : ∀ v, v.isOrdered → (asking w s field .equals v).Taken store →
    (asking w s field .atMost v).Taken store → (asking w s field .atLeast v).Taken store →
    ∀ b, (asking w s field .equals v).Shows db store timeout table b ↔
      (asking w s field .atMost v).Shows db store timeout table b ∧
        (asking w s field .atLeast v).Shows db store timeout table b
  member : ∀ vs, Value.AreUniform vs → (asking w s field .oneOf (.list vs)).Taken store →
    (∀ v ∈ vs, (asking w s field .equals v).Taken store) →
    ∀ b, (asking w s field .oneOf (.list vs)).Shows db store timeout table b ↔
      ∃ v ∈ vs, (asking w s field .equals v).Shows db store timeout table b
  split : ∀ op op' v lows highs, op.complement? = some op' → v.isOrdered →
    (asking w s field op v).Taken store → (asking w s field op' v).Taken store →
    (asking w s field op v).Answers db store timeout table lows →
    (asking w s field op' v).Answers db store timeout table highs →
      (lows ++ highs).Perm (store.blogs.filter (admitsWith w s (FieldPath.ofName field) store))

theorem admits_asking {field : String} {op : Operator} {v : Value}
    (hq : (asking w s field op v).Answerable) {store : Store} {b : Blog} :
    (asking w s field op v).admits store b ↔ (ofSpec w s).admits store b ∧
      ∃ cell, (FieldPath.ofName field).cell? store b = some cell ∧ op.holds cell v := by
  have hrelation := relation_eq_none_or_author hq.relations
  have hothers : ∀ f ∈ s.filters, f.path.relation = none ∨
      f.path.relation = some Select.authorRelation :=
    fun f hf => hrelation f (List.mem_append_left _ hf)
  rw [asking, admits_iff_cells hrelation, admits_iff_cells hothers]
  simp only [Spec.asking, List.forall_mem_append, List.forall_mem_singleton, Option.any_eq_true,
    Filter.holds_condition]
  rfl

theorem parts_asking {field : String} {op op' : Operator} {v : Value}
    (hop : op.complement? = some op') (hv : v.isOrdered)
    (hq : (asking w s field op v).Answerable) (hq' : (asking w s field op' v).Answerable)
    (store : Store) :
    Parts (admitsWith w s (FieldPath.ofName field) store) ((asking w s field op v).admits store)
      ((asking w s field op' v).admits store) := by
  constructor
  · intro b
    rw [admits_asking hq, admits_asking hq', admitsWith, Bool.and_eq_true, ← and_or_left]
    refine and_congr_right fun _ => ?_
    cases (FieldPath.ofName field).cell? store b with
    | none => simp
    | some cell =>
      simp only [Option.some.injEq, exists_eq_left', Operator.holds_complement hv hop]
      cases op.holds cell v <;> simp
  · intro b
    rw [admits_asking hq, admits_asking hq']
    rintro ⟨⟨-, cell, hcell, hlow⟩, -, cell', hcell', hhigh⟩
    cases hcell.symm.trans hcell'
    rw [Operator.holds_complement hv hop, hlow] at hhigh
    nomatch hhigh

section Agreement

variable {db : Database} (hdb : db.KeepsBounds) {doc : Value}
  (hw : Whitelist.ofDocument doc = .ok w) {store : Store} (hstore : store.Sound)
  (hlimit : store.blogs.length ≤ s.limit.toNat) (field : String) (timeout : Value)
  {table : Option String} (htable : StoreTable.ofName? ((ofSpec w s).servedTable table) =
    some .blog)
include hdb hw hstore hlimit htable

theorem shows_asking {op : Operator} {v : Value} (hq : (asking w s field op v).Taken store)
    (b : Blog) : (asking w s field op v).Shows db store timeout table b ↔
      b ∈ store.blogs ∧ (asking w s field op v).admits store b :=
  shows_iff hdb hw hstore timeout (s := s.asking ⟨field, op, v⟩) htable hlimit hq b

end Agreement

def newestSpec : Spec := ⟨"Blog", ["id", "title"], [], 50⟩

theorem asking_newestSpec (op : Operator) (v : Value) :
    asking Whitelist.standard newestSpec "user.username" op v =
      ⟨"Blog", ⟨[], [("user", [("username", [⟨op.name, v⟩])])]⟩, ["id", "title"], 50,
        [("user", [.text "id", .text "username"])]⟩ := by
  cbv

def usernameColumn : ColumnRef := ⟨"user_rel", ⟨"username", .text⟩⟩

def newestSelection (clause : Clause) : Select where
  outputs := [("id", ⟨keyColumn, "id"⟩), ("title", ⟨⟨"Blog", ⟨"title", .text⟩⟩, "title"⟩)]
  nested := [⟨"user", "id", ⟨⟨"user_rel", ⟨"id", .integer⟩⟩, "user__id"⟩⟩,
    ⟨"user", "username", ⟨usernameColumn, "user__username"⟩⟩]
  joinsAuthor := true
  clauses := [clause]
  limit := 50

theorem taken_newestSpec {op : Operator} {v : Value} (clause : Clause) (bound : BoundClause)
    (hfits : Conditions.fit [("username", [⟨op.name, v⟩])] userColumns)
    (hselection : Select.ofQuery (asking Whitelist.standard newestSpec "user.username" op v) =
      .ok (newestSelection clause))
    (hbound : (newestSelection clause).handOver (newestSelection clause).prepare = .ok [bound])
    (hparameters : (Sql.selectText .sqlite (newestSelection clause)).params.length ≤ 32766)
    (hdepth : (newestSelection clause).depth ≤ 1000)
    (hborne : (¬bound.isTooLarge ∧ ¬bound.isTooLong) ∧
      ∀ m ∈ smallStore.candidates true, ¬bound.mayMiss true m) :
    (asking Whitelist.standard newestSpec "user.username" op v).Taken smallStore := by
  have hlabels : (newestSelection clause).labels.length = 4 := rfl
  refine ⟨?_, within_of_ofQuery hselection (Select.within_of_handOver hbound
    ⟨hparameters, hdepth, by omega⟩ (List.forall_mem_singleton.mpr hborne))⟩
  rw [asking_newestSpec]
  have hcolumns : authorColumns ⟨"Blog", ⟨[], [("user", [("username", [⟨op.name, v⟩])])]⟩,
      ["id", "title"], 50, [("user", [.text "id", .text "username"])]⟩ =
        [.text "id", .text "username"] := rfl
  have hprojection : ["id", "title"].Nodup ∧
      ∀ f ∈ ["id", "title"], (columnNamed? blogColumns f).isSome := by
    decide
  have hlimit : (0 : Int) ≤ 50 ∧ fits64 50 := by decide
  refine ⟨by simp [Select.authorRelation], ⟨hprojection.2, rfl, hfits, ?_⟩, hprojection.1, ?_,
    .inl (List.cons_ne_nil _ _), hlimit.1, hlimit.2⟩
  · rw [hcolumns]
    simp only [List.forall_mem_cons]
    exact ⟨by cbv, by cbv, by simp⟩
  · rw [hcolumns]
    simp

def idSpec : Spec := ⟨"Blog", ["id"], [], 10⟩

theorem rowsOn_idSpec {op : Operator} (comparison : Comparison) (found : Option Match)
    (hselection : Select.ofQuery (asking Whitelist.standard idSpec "id" op leastReal) =
      .ok (keySelection [.compare keyColumn comparison leastReal]))
    (hfound : (keySelection [.compare keyColumn comparison leastReal]).found
      [.compare keyColumn comparison leastReal.parameter] leastStore = found.toList) :
    (asking Whitelist.standard idSpec "id" op leastReal).rowsOn .sqlite leastStore .null none =
      .ok (found.toList.map (keySelection [.compare keyColumn comparison leastReal]).row) := by
  have hserved : StoreTable.ofName?
      ((asking Whitelist.standard idSpec "id" op leastReal).servedTable none) = some .blog := rfl
  have hbounds : (keySelection [.compare keyColumn comparison leastReal]).handOver
      (keySelection [.compare keyColumn comparison leastReal]).prepareBounded =
        .ok [.compare keyColumn comparison leastReal.parameter] := rfl
  have htexts : ¬(BoundClause.compare keyColumn comparison leastReal.parameter).isTooLarge ∧
      ¬(BoundClause.compare keyColumn comparison leastReal.parameter).isTooLong :=
    ⟨Bool.false_ne_true, Bool.false_ne_true⟩
  rw [rowsOn_sqlite hselection _ _ hserved,
    runBounded_keySelection hbounds (List.forall_mem_singleton.mpr htexts) hfound]
  rfl

end Query

end QueryGate
