import Mathlib.Data.List.Nodup
import QueryGate.Proofs.Store.Ranking
import QueryGate.Proofs.Store.Statement

/-!
# What a selection returns

`Query.admits` is what a query asks of a blog, `Query.describe` the row that shows a blog, and
`Newest` singles out the newest blogs that pass a test. Main statements:
`Select.run_eq_ok`, a selection that can be bound gives a row for each match that it chooses, and
`Select.exists_newest_chosen`, those are the newest of the blogs that its query admits.
-/

set_option autoImplicit false

namespace QueryGate

/-- The newest blogs that pass a test, as many of them as the limit allows and newest first, so
that none is there twice. -/
structure Newest (blogs : List Blog) (test : Blog → Bool) (limit : Nat) (chosen : List Blog) :
    Prop where
  mem : ∀ b ∈ chosen, b ∈ blogs ∧ test b
  ordered : chosen.Pairwise fun a b => a.isNewer b
  length : chosen.length = min limit (blogs.countP test)
  left_out : ∀ b ∈ blogs, test b → b ∉ chosen → ∀ a ∈ chosen, a.isNewer b

namespace Store

/-- No id stands for two users or for two blogs, and the calendar has every moment of creation. -/
structure Sound (s : Store) : Prop where
  users : (s.users.map (·.id)).Nodup
  blogs : (s.blogs.map (·.id)).Nodup
  created : ∀ b ∈ s.blogs, b.createdAt.IsValid

def author? (s : Store) (b : Blog) : Option User := s.users.find? (·.id == b.userId)

end Store

namespace Query

/-- Does the blog satisfy every condition of the query on it, and its author every condition on
the author? -/
def admits (q : Query) (s : Store) (b : Blog) : Bool :=
  q.predicate.fields.hold b.cell? &&
    (!q.crossesAuthor || (s.author? b).any fun u => q.authorConditions.hold u.cell?)

def shownCell (cell? : String → Option Cell) (name : String) : Value :=
  ((cell? name).map Cell.toValue).getD .null

/-- The row of a blog: the columns of the projection and, where the query crosses the relation,
the identifying columns of the author. -/
def describe (q : Query) (s : Store) (b : Blog) : Value :=
  let own := q.projection.map fun name => (name, shownCell b.cell? name)
  let author (name : String) : Option Cell := (s.author? b).bind (·.cell? name)
  let nested := (q.authorColumns.filterMap Value.text?).map fun name =>
    (name, shownCell author name)
  .object (own ++ if q.crossesAuthor then [(Select.authorRelation, .object nested)] else [])

end Query

/-- The front of the sorted list of a store's blogs that pass a test holds the newest of them. -/
theorem newest_take {blogs : List Blog} (hids : (blogs.map (·.id)).Nodup)
    (hcreated : ∀ b ∈ blogs, b.createdAt.IsValid) (test : Blog → Bool) (limit : Nat) :
    Newest blogs test limit (((blogs.filter test).mergeSort Blog.comesFirst).take limit) := by
  have hperm := List.mergeSort_perm (blogs.filter test) Blog.comesFirst
  have hmem : ∀ b, b ∈ (blogs.filter test).mergeSort Blog.comesFirst ↔ b ∈ blogs ∧ test b := by
    intro b
    rw [hperm.mem_iff, List.mem_filter]
  have hsorted := List.pairwise_mergeSort Blog.comesFirst_trans Blog.comesFirst_total
    (blogs.filter test)
  have hdistinct : ((blogs.filter test).mergeSort Blog.comesFirst).Pairwise
      fun a b => a.id ≠ b.id := by
    have hfiltered := (List.pairwise_map.mp hids).sublist (List.filter_sublist (p := test))
    exact (hperm.pairwise_iff fun h => h.symm).mpr hfiltered
  have hordered : ((blogs.filter test).mergeSort Blog.comesFirst).Pairwise
      fun a b => a.isNewer b := by
    refine (hsorted.and hdistinct).imp_of_mem ?_
    intro a b ha hb h
    have hvalid := fun c hc => hcreated c ((hmem c).mp hc).1
    exact Blog.isNewer_of_comesFirst (hvalid a ha) (hvalid b hb) h.1 h.2
  generalize hl : (blogs.filter test).mergeSort Blog.comesFirst = sorted at hmem hordered ⊢
  refine ⟨?_, hordered.sublist (List.take_sublist _ _), ?_, ?_⟩
  · exact fun b hb => (hmem b).mp (List.mem_of_mem_take hb)
  · rw [List.length_take, ← hl, List.length_mergeSort, List.countP_eq_length_filter]
  · intro b hb htest hnot a ha
    have hdrop : b ∈ sorted.drop limit := by
      have hsplit : b ∈ sorted.take limit ++ sorted.drop limit := by
        rw [List.take_append_drop]
        exact (hmem b).mpr ⟨hb, htest⟩
      exact (List.mem_append.mp hsplit).resolve_left hnot
    rw [← List.take_append_drop limit sorted, List.pairwise_append] at hordered
    exact hordered.2.2 a ha b hdrop

theorem name_of_columnNamed? {columns : List Column} {name : String} {c : Column}
    (h : columnNamed? columns name = some c) : c.name = name := by
  simpa using List.find?_some h

theorem Blog.exists_cell (b : Blog) {name : String} {c : Column}
    (h : columnNamed? blogColumns name = some c) :
    ∃ cell, b.cell? name = some cell ∧ cell.kind = c.kind := by
  obtain rfl := name_of_columnNamed? h
  have hmem := List.mem_of_find?_eq_some h
  simp only [blogColumns, List.mem_cons, List.not_mem_nil, or_false] at hmem
  rcases hmem with rfl | rfl | rfl | rfl | rfl | rfl | rfl <;> exact ⟨_, rfl, rfl⟩

theorem User.exists_cell (u : User) {name : String} {c : Column}
    (h : columnNamed? userColumns name = some c) :
    ∃ cell, u.cell? name = some cell ∧ cell.kind = c.kind := by
  obtain rfl := name_of_columnNamed? h
  have hmem := List.mem_of_find?_eq_some h
  simp only [userColumns, List.mem_cons, List.not_mem_nil, or_false] at hmem
  rcases hmem with rfl | rfl | rfl | rfl | rfl <;> exact ⟨_, rfl, rfl⟩

namespace Match

theorem cell?_base (m : Match) {name : String} {c : Column}
    (h : columnNamed? blogColumns name = some c) :
    m.cell? ⟨Select.baseName, c⟩ = m.blog.cell? name := by
  rw [cell?, if_pos rfl, name_of_columnNamed? h]

theorem cell?_author (b : Blog) (u : User) {name : String} {c : Column}
    (h : columnNamed? userColumns name = some c) :
    (⟨b, some u⟩ : Match).cell? ⟨Select.relatedName Select.authorRelation, c⟩ = u.cell? name := by
  have hne : Select.relatedName Select.authorRelation ≠ Select.baseName := by decide
  rw [cell?, if_neg hne, name_of_columnNamed? h]
  rfl

end Match

namespace Store

/-- A blog as a selection sees it: with its author where the authors are joined. -/
def paired? (s : Store) (joinsAuthor : Bool) (b : Blog) : Option Match :=
  if joinsAuthor then (s.author? b).map fun u => ⟨b, some u⟩ else some ⟨b, none⟩

theorem blog_of_paired? {s : Store} {joinsAuthor : Bool} {b : Blog} {m : Match}
    (h : s.paired? joinsAuthor b = some m) : m.blog = b := by
  unfold paired? at h
  split at h
  · obtain ⟨u, -, rfl⟩ := Option.map_eq_some_iff.mp h
    rfl
  · cases h
    rfl

theorem filter_id_eq {users : List User} (h : (users.map (·.id)).Nodup) (id : Int) :
    users.filter (·.id == id) = (users.find? (·.id == id)).toList := by
  induction users with
  | nil => rfl
  | cons u users ih =>
    rw [List.map_cons, List.nodup_cons] at h
    by_cases hid : u.id = id
    · have hrest : users.filter (·.id == id) = [] := by
        rw [List.filter_eq_nil_iff]
        intro u' hu' heq
        apply h.1
        rw [hid, ← eq_of_beq heq]
        exact List.mem_map_of_mem hu'
      simp [hid, hrest]
    · simp [hid, ih h.2]

theorem candidates_eq {s : Store} (h : (s.users.map (·.id)).Nodup) (joinsAuthor : Bool) :
    s.candidates joinsAuthor = s.blogs.filterMap (s.paired? joinsAuthor) := by
  cases joinsAuthor with
  | false => exact (congrFun List.filterMap_eq_map s.blogs).symm
  | true =>
    simp only [candidates, if_true, List.filterMap_eq_flatMap_toList]
    congr 1
    funext b
    rw [usersById, filter_id_eq h, paired?, if_pos rfl, author?]
    cases s.users.find? (·.id == b.userId) <;> rfl

end Store

namespace Select

variable {q : Query} {s : Select} {store : Store} {b : Blog} {m : Match}

theorem all_holds_eq (hasks : Asks q s) (hpaired : store.paired? q.crossesAuthor b = some m)
    {bounds : List BoundClause} (hbinds : List.Forall₂ Clause.Binds s.clauses bounds) :
    bounds.all (·.holds m) = q.admits store b := by
  obtain ⟨own, author, hown, hauthor, hclauses⟩ := hasks.clauses
  rw [hclauses] at hbinds
  obtain ⟨ownBounds, authorBounds, hownBinds, hauthorBinds, rfl⟩ :=
    Attempt.exists_of_forall₂_append hbinds
  obtain rfl := Store.blog_of_paired? hpaired
  have hfields : ownBounds.all (·.holds m) = q.predicate.fields.hold m.blog.cell? := by
    refine holds_of_binds_clausesOf hown hownBinds ?_
    intro name c hc
    obtain ⟨cell, hcell, hkind⟩ := m.blog.exists_cell hc
    exact ⟨cell, hcell, (m.cell?_base hc).trans hcell, hkind⟩
  rw [List.all_append, hfields, Query.admits]
  congr 1
  -- Without a join there is nothing to ask of an author, and with one there is an author.
  cases hcrosses : q.crossesAuthor with
  | false =>
    have hnone : q.authorConditions = [] := by
      rw [Query.crossesAuthor, Option.isSome_eq_false_iff, Option.isNone_iff_eq_none] at hcrosses
      rw [Query.authorConditions, hcrosses, Option.getD_none]
    rw [hnone] at hauthor
    cases hauthor
    cases hauthorBinds
    rfl
  | true =>
    rw [hcrosses, Store.paired?, if_pos rfl] at hpaired
    obtain ⟨u, hu, hm⟩ := Option.map_eq_some_iff.mp hpaired
    have hconditions : authorBounds.all (·.holds m) = q.authorConditions.hold u.cell? := by
      refine holds_of_binds_clausesOf hauthor hauthorBinds ?_
      intro name c hc
      obtain ⟨cell, hcell, hkind⟩ := u.exists_cell hc
      refine ⟨cell, hcell, ?_, hkind⟩
      rw [← hm]
      exact (Match.cell?_author m.blog u hc).trans hcell
    rw [hconditions, hu]
    rfl

theorem ownMembers_eq {names : List String} (houtputs : List.Forall₂ IsOwn names s.outputs) :
    s.ownMembers m = names.map fun name => (name, Query.shownCell m.blog.cell? name) := by
  symm
  refine Attempt.map_eq_map_of_forall₂ houtputs ?_
  rintro name o ⟨c, hc, rfl⟩
  simp only [outputValue, m.cell?_base hc, Query.shownCell]
  cases m.blog.cell? name <;> rfl

theorem nestedOutputs_eq {vs : List Value} {nested : List NestedOutput}
    (h : List.Forall₂ IsNested vs nested) (b : Blog) (u : User) :
    (nested.map fun n => (n.name, outputValue ⟨b, some u⟩ n.output)) =
      (vs.filterMap Value.text?).map fun name => (name, Query.shownCell u.cell? name) := by
  induction h with
  | nil => rfl
  | cons hv _ ih =>
    obtain ⟨name, c, rfl, hc, rfl⟩ := hv
    have hname : (Value.text name).text? = some name := rfl
    rw [List.map_cons, ih, List.filterMap_cons_some hname, List.map_cons]
    congr 1
    simp only [outputValue, Match.cell?_author b u hc, Query.shownCell]
    cases u.cell? name <;> rfl

theorem row_eq (hasks : Asks q s) (hpaired : store.paired? q.crossesAuthor b = some m)
    (hcolumns : q.crossesAuthor → q.authorColumns ≠ []) : s.row m = q.describe store b := by
  obtain rfl := Store.blog_of_paired? hpaired
  rw [row, Query.describe, ownMembers_eq hasks.outputs]
  congr 2
  have hlength := hasks.nested.length_eq
  cases hcrosses : q.crossesAuthor with
  | false =>
    have hnone : q.authorColumns = [] := by simp [Query.authorColumns, hcrosses]
    have hempty : s.nested = [] := by
      rw [hnone] at hlength
      exact List.length_eq_zero_iff.mp hlength.symm
    rw [nestedMembers, hempty]
    rfl
  | true =>
    rw [hcrosses, Store.paired?, if_pos rfl] at hpaired
    obtain ⟨u, hu, hm⟩ := Option.map_eq_some_iff.mp hpaired
    have hsome : ¬s.nested.isEmpty := by
      intro hempty
      rw [List.isEmpty_iff.mp hempty, List.length_nil, List.length_eq_zero_iff] at hlength
      exact hcolumns hcrosses hlength
    rw [nestedMembers, if_neg hsome, if_pos rfl, hu, ← hm, nestedOutputs_eq hasks.nested m.blog u]
    rfl

theorem name_ne_nestedLabel {name : String} {c : Column}
    (h : columnNamed? blogColumns name = some c) (column : String) :
    name ≠ nestedLabel authorRelation column := by
  obtain rfl := name_of_columnNamed? h
  have hmem := List.mem_of_find?_eq_some h
  have hfront : ∀ c ∈ blogColumns, c.name.toList.take 6 ≠ "user__".toList := by decide
  intro heq
  apply hfront c hmem
  rw [heq, nestedLabel, authorRelation, String.toList_append, String.toList_append]
  rfl

theorem nodup_labels_iff (hasks : Asks q s) :
    s.labels.Nodup ↔ q.projection.Nodup ∧ q.authorColumns.Nodup := by
  have hown : s.outputs.map (·.2.label) = q.projection := by
    rw [← List.map_id q.projection]
    symm
    refine Attempt.map_eq_map_of_forall₂ hasks.outputs ?_
    rintro name o ⟨c, -, rfl⟩
    rfl
  have hnested : s.nested.map (·.output.label) =
      q.authorColumns.map fun v => nestedLabel authorRelation (v.text?.getD "") := by
    symm
    refine Attempt.map_eq_map_of_forall₂ hasks.nested ?_
    rintro v n ⟨name, c, rfl, -, rfl⟩
    rfl
  rw [labels, hown, hnested, List.nodup_append]
  constructor
  · rintro ⟨hprojection, hcolumns, -⟩
    exact ⟨hprojection, hcolumns.of_map⟩
  · rintro ⟨hprojection, hcolumns⟩
    refine ⟨hprojection, hcolumns.map_on ?_, ?_⟩
    · intro v hv v' hv' heq
      obtain ⟨-, name, -, rfl, -⟩ := Attempt.exists_forall₂.mp ⟨_, hasks.nested⟩ v hv
      obtain ⟨-, name', -, rfl, -⟩ := Attempt.exists_forall₂.mp ⟨_, hasks.nested⟩ v' hv'
      exact congrArg Value.text ((String.append_right_inj _).mp heq)
    · intro name hname label hlabel
      obtain ⟨-, c, hc, -⟩ := Attempt.exists_forall₂.mp ⟨_, hasks.outputs⟩ name hname
      obtain ⟨v, -, rfl⟩ := List.mem_map.mp hlabel
      exact name_ne_nestedLabel hc _

variable {bounds : List BoundClause}

theorem admits_of_paired?_eq_none (h : store.paired? q.crossesAuthor b = none) :
    q.admits store b = false := by
  cases hcrosses : q.crossesAuthor with
  | false =>
    rw [hcrosses] at h
    nomatch h
  | true =>
    rw [hcrosses, Store.paired?, if_pos rfl, Option.map_eq_none_iff] at h
    rw [Query.admits, hcrosses, h]
    exact Bool.and_false _

/-- The matches that pass the bound clauses are those of the blogs that the query admits. -/
theorem map_blog_filter (hasks : Asks q s) (hbinds : List.Forall₂ Clause.Binds s.clauses bounds)
    (husers : (store.users.map (·.id)).Nodup) :
    ((store.candidates s.joinsAuthor).filter fun m => bounds.all (·.holds m)).map (·.blog) =
      store.blogs.filter (q.admits store) := by
  rw [Store.candidates_eq husers, hasks.joinsAuthor, List.filter_filterMap, List.map_filterMap,
    ← List.filterMap_eq_filter]
  congr 1
  funext b
  cases hpaired : store.paired? q.crossesAuthor b with
  | none =>
    have hadmits := admits_of_paired?_eq_none hpaired
    simp [Option.guard_apply, hadmits]
  | some m =>
    have hholds := all_holds_eq hasks hpaired hbinds
    have hblog := Store.blog_of_paired? hpaired
    simp only [Option.filter_some, hholds, Option.guard_apply]
    split
    · rw [Option.map_some, hblog]
    · rfl

/-- The matches that a selection chooses are the newest of the blogs that its query admits. -/
theorem map_blog_chosen (hasks : Asks q s) (hbinds : List.Forall₂ Clause.Binds s.clauses bounds)
    (husers : (store.users.map (·.id)).Nodup) (hlimit : 0 ≤ q.limit) :
    (s.chosen bounds store).map (·.blog) =
      ((store.blogs.filter (q.admits store)).mergeSort Blog.comesFirst).take q.limit.toNat := by
  have hcut : ¬q.limit < 0 := by omega
  rw [chosen, cut, hasks.limit, if_neg hcut, List.map_take, ← map_blog_filter hasks hbinds husers]
  congr 1
  exact List.map_mergeSort fun _ _ _ _ => rfl

theorem cut_sublist {α : Type} (limit : Int) (rows : List α) : (cut limit rows).Sublist rows := by
  unfold cut
  split
  · exact .refl _
  · exact List.take_sublist _ _

theorem mem_candidates_of_mem_chosen (hm : m ∈ s.chosen bounds store) :
    m ∈ store.candidates s.joinsAuthor :=
  (List.mem_filter.mp (List.mem_mergeSort.mp ((cut_sublist _ _).mem hm))).1

theorem paired?_of_mem_chosen (hasks : Asks q s) (husers : (store.users.map (·.id)).Nodup)
    (hm : m ∈ s.chosen bounds store) : store.paired? q.crossesAuthor m.blog = some m := by
  have hcandidate := mem_candidates_of_mem_chosen hm
  rw [Store.candidates_eq husers, hasks.joinsAuthor] at hcandidate
  obtain ⟨b, -, hb⟩ := List.mem_filterMap.mp hcandidate
  rw [Store.blog_of_paired? hb, hb]

theorem isEmpty_iff (hasks : Asks q s) :
    (s.outputs.isEmpty && s.nested.isEmpty) ↔ q.projection = [] ∧ q.authorColumns = [] := by
  have houtputs := hasks.outputs.length_eq
  have hnested := hasks.nested.length_eq
  rw [Bool.and_eq_true, List.isEmpty_iff_length_eq_zero, List.isEmpty_iff_length_eq_zero,
    ← houtputs, ← hnested, List.length_eq_zero_iff, List.length_eq_zero_iff]

theorem prepare_eq_ok : s.prepare = .ok () ↔ ¬(s.outputs.isEmpty && s.nested.isEmpty) := by
  unfold prepare
  split <;> simp_all

theorem isInternal_of_answer {found : List Match} {e : Failure} (h : s.answer found = .error e) :
    e.isInternal := by
  rw [answer] at h
  split at h
  · nomatch h
  · cases h
    rfl

theorem eq_map_row_of_answer {found : List Match} {rows : List Value}
    (h : s.answer found = .ok rows) : rows = found.map s.row := by
  rw [answer] at h
  split at h
  · exact (Except.ok.inj h).symm
  · nomatch h

section Run

variable (hasks : Asks q s) (hbinds : List.Forall₂ Clause.Binds s.clauses bounds)
  (hlimit : fits64 q.limit) (hreturns : q.projection ≠ [] ∨ q.authorColumns ≠ [])
include hasks hbinds hlimit hreturns

theorem handOver_prepare : s.handOver s.prepare = .ok bounds := by
  have hprepared : s.prepare = .ok () := by
    rw [prepare_eq_ok, isEmpty_iff hasks, not_and_or]
    exact hreturns
  exact handOver_eq_ok.mpr ⟨hbinds, hprepared, hasks.limit.symm ▸ hlimit⟩

/-- A selection that can be bound and has a column to return fails only where a match is chosen and
a column is returned twice. -/
theorem run_eq : s.run store =
    if (s.chosen bounds store).isEmpty || decide s.labels.Nodup then
      .ok ((s.chosen bounds store).map s.row)
    else .error .ambiguousColumn := by
  rw [run, handOver_prepare hasks hbinds hlimit hreturns, Attempt.ok_bind, answer]

/-- A selection that can be bound, with a column to return and none returned twice, gives a row
for each match that it chooses. -/
theorem run_eq_ok (hprojection : q.projection.Nodup) (hcolumns : q.authorColumns.Nodup) :
    s.run store = .ok ((s.chosen bounds store).map s.row) := by
  have hlabels : decide s.labels.Nodup = true :=
    decide_eq_true ((nodup_labels_iff hasks).mpr ⟨hprojection, hcolumns⟩)
  rw [run_eq hasks hbinds hlimit hreturns, hlabels, Bool.or_true, if_pos rfl]

theorem run_eq_ambiguousColumn : s.run store = .error .ambiguousColumn ↔
    s.chosen bounds store ≠ [] ∧ ¬(q.projection.Nodup ∧ q.authorColumns.Nodup) := by
  rw [run_eq hasks hbinds hlimit hreturns, ← nodup_labels_iff hasks]
  simp [not_or]

end Run

theorem map_row_chosen (hasks : Asks q s)
    (hbinds : List.Forall₂ Clause.Binds s.clauses bounds)
    (husers : (store.users.map (·.id)).Nodup) (hlimit : 0 ≤ q.limit)
    (hcolumns : q.crossesAuthor → q.authorColumns ≠ []) :
    (s.chosen bounds store).map s.row =
      (((store.blogs.filter (q.admits store)).mergeSort Blog.comesFirst).take q.limit.toNat).map
        (q.describe store) := by
  rw [← map_blog_chosen hasks hbinds husers hlimit, List.map_map]
  refine List.map_congr_left fun m hm => ?_
  exact row_eq hasks (paired?_of_mem_chosen hasks husers hm) hcolumns

/-- The chosen matches are the newest of the blogs that the query admits, and their rows describe
them. -/
theorem exists_newest_chosen (hasks : Asks q s)
    (hbinds : List.Forall₂ Clause.Binds s.clauses bounds) (hstore : store.Sound)
    (hlimit : 0 ≤ q.limit) (hcolumns : q.crossesAuthor → q.authorColumns ≠ []) :
    ∃ chosen, Newest store.blogs (q.admits store) q.limit.toNat chosen ∧
      (s.chosen bounds store).map s.row = chosen.map (q.describe store) :=
  ⟨_, newest_take hstore.blogs hstore.created _ _,
    map_row_chosen hasks hbinds hstore.users hlimit hcolumns⟩

end Select

end QueryGate
