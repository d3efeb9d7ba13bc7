import QueryGate.Proofs.Seed.Integrity
import QueryGate.Proofs.Store.Reference
import QueryGate.Seed.Load

/-!
# Loading generated rows over what was there

A load clears the tables from the last to the first and fills them from the first to the last, so
that between any two of its statements the store holds the first tables only, of the content before
or of the generated rows, and no reference is open. In the end it holds the generated rows and
nothing else. Main statement: `reseeds`.
-/

set_option autoImplicit false

namespace QueryGate.Seed

def Sizes.count (z : Sizes) : StoreTable → Nat
  | .user => z.users
  | .blog => z.blogs
  | .comment => z.comments
  | .tag => z.tags
  | .like => z.likes
  | .conversation => z.conversations
  | .message => z.messages

/-- Every table gets a row. -/
def Sizes.Positive (z : Sizes) : Prop := ∀ t, 0 < z.count t

example : ({} : Sizes).Positive := fun t => by cases t <;> decide

theorem Sizes.Positive.fillable {z : Sizes} (h : z.Positive) : z.Fillable where
  users _ := h .user
  blogs _ := h .blog
  conversations _ := h .conversation

/-- Rows that one after the other can be put into empty tables, at least one into each. -/
structure Loadable (rows : Store) : Prop where
  nonempty : ∀ t, rows.rows t ≠ []
  apart : ∀ t, (rows.rows t).Pairwise Row.Apart

namespace Integral

variable {sizes : Sizes} {rows : Store} (h : Integral sizes rows)
include h

theorem map_id (t : StoreTable) : (rows.rows t).map Row.id = idsTo (sizes.count t) := by
  cases t
  all_goals rw [Store.rows, List.map_map]
  exacts [h.users, h.blogs, h.comments, h.tags, h.likes, h.conversations, h.messages]

theorem resolved : rows.Resolved := by
  intro t row hrow r hr
  cases t
  all_goals
    obtain ⟨x, hx, rfl⟩ := List.mem_map.mp hrow
    simp only [Row.references, List.mem_cons, List.not_mem_nil, or_false] at hr
  case blog =>
    subst hr
    simpa [Store.rows, Row.id] using h.blogRefers x hx
  case comment =>
    rcases hr with rfl | rfl
    · simpa [Store.rows, Row.id] using (h.commentRefers x hx).1
    · simpa [Store.rows, Row.id] using (h.commentRefers x hx).2
  case tag =>
    subst hr
    simpa [Store.rows, Row.id] using h.tagRefers x hx
  case like =>
    rcases hr with rfl | rfl
    · simpa [Store.rows, Row.id] using (h.likeRefers x hx).1
    · simpa [Store.rows, Row.id] using (h.likeRefers x hx).2
  case message =>
    rcases hr with rfl | rfl
    · simpa [Store.rows, Row.id] using (h.messageRefers x hx).1
    · simpa [Store.rows, Row.id] using (h.messageRefers x hx).2

theorem loadable (hz : sizes.Positive) : Loadable rows where
  nonempty t := ne_nil_of_ids (h.map_id t) (hz t)
  apart t := by
    have hids : (rows.rows t).Pairwise fun r r' => r.id ≠ r'.id :=
      List.pairwise_map.mp (h.map_id t ▸ nodup_idsTo _)
    have husers : (rows.rows t).Pairwise fun r r' => ∀ u v, r = .user u → r' = .user v →
        u.username ≠ v.username ∧ u.email ≠ v.email := by
      cases t with
      | user =>
        rw [Store.rows, List.pairwise_map]
        refine ((List.pairwise_map.mp h.usernames).and (List.pairwise_map.mp h.emails)).imp ?_
        rintro u v hne _ _ ⟨⟩ ⟨⟩
        exact hne
      | _ =>
        rw [Store.rows, List.pairwise_map]
        refine List.pairwise_of_forall fun _ _ u _ hrow => ?_
        cases hrow
    exact (hids.and husers).imp fun hrow => ⟨hrow.1, hrow.2⟩

end Integral

theorem result_fill (rows : Store) (tables : List StoreTable) (s : Store) :
    (fill rows tables s).2 = s.applyAll (tables.map (filling rows)) := by
  induction tables generalizing s with
  | nil => rfl
  | cons t rest ih =>
    rw [fill, List.map_cons, Store.applyAll, List.foldlM_cons]
    cases hs : s.apply (filling rows t) with
    | error e => rfl
    | ok s' => exact ih s'

theorem result_load (rows s : Store) : (load rows s).2 = s.applyAll (statements rows) := by
  rw [load, statements, Store.applyAll_append]
  cases hs : s.applyAll clearing with
  | error e => rfl
  | ok s' => exact result_fill rows _ s'

namespace Loadable

variable {rows : Store} (h : Loadable rows)
include h

theorem exists_filling {s : Store} {t : StoreTable} (ht : s.rows t = []) :
    ∃ s', s.apply (filling rows t) = .ok s' ∧
      ∀ t', s'.rows t' = if t' = t then rows.rows t' else s.rows t' := by
  have hinsert : filling rows t = .insert (rows.rows t) := by
    unfold filling
    split
    · rename_i hnone
      exact absurd hnone (h.nonempty t)
    · rename_i hrows
      rw [hrows]
  have htable : ∀ row ∈ rows.rows t, row.table = t := fun _ => Store.table_of_mem_rows
  have hapart : (s.rows t ++ rows.rows t).Pairwise Row.Apart := by
    rw [ht, List.nil_append]
    exact h.apart t
  obtain ⟨s', hs', hrows⟩ := Store.exists_insertAll htable hapart
  refine ⟨s', hinsert ▸ hs', fun t' => ?_⟩
  rw [hrows]
  split
  · rename_i heq
    rw [heq, ht, List.nil_append]
  · rfl

theorem exists_fillAll {tables : List StoreTable} (hnodup : tables.Nodup) {s : Store}
    (hempty : ∀ t ∈ tables, s.rows t = []) :
    ∃ s', s.applyAll (tables.map (filling rows)) = .ok s' ∧
      ∀ t, s'.rows t = if t ∈ tables then rows.rows t else s.rows t := by
  induction tables generalizing s with
  | nil => exact ⟨s, rfl, fun t => (if_neg List.not_mem_nil).symm⟩
  | cons table rest ih =>
    obtain ⟨hnot, hrest⟩ := List.nodup_cons.mp hnodup
    obtain ⟨htable, hothers⟩ := List.forall_mem_cons.mp hempty
    obtain ⟨s₁, hs₁, hrows₁⟩ := h.exists_filling htable
    have hstill : ∀ t ∈ rest, s₁.rows t = [] := by
      intro t ht
      rw [hrows₁, if_neg (ne_of_mem_of_not_mem ht hnot), hothers t ht]
    obtain ⟨s₂, hs₂, hrows₂⟩ := ih hrest hstill
    refine ⟨s₂, Attempt.bind_eq_ok.mpr ⟨s₁, hs₁, hs₂⟩, fun t => ?_⟩
    rw [hrows₂, hrows₁]
    by_cases ht : t = table
    · simp [ht]
    · simp [ht]

variable {front back : List StoreTable} (htables : front ++ back = StoreTable.all) (s : Store)
include htables

/-- When every table has been cleared and the first ones have been filled, the store holds these of
the generated rows. -/
theorem exists_refilled :
    ∃ s', s.applyAll (clearing ++ front.map (filling rows)) = .ok s' ∧
      s'.HoldsOnly rows front := by
  obtain ⟨s₁, hs₁, hrows₁⟩ := Store.exists_clearAll StoreTable.all.reverse s
  have hempty : ∀ t, s₁.rows t = [] := fun t =>
    (hrows₁ t).trans (if_pos (List.mem_reverse.mpr t.mem_all))
  have hnodup : (front ++ back).Nodup := htables ▸ StoreTable.nodup_all
  obtain ⟨s₂, hs₂, hrows₂⟩ := h.exists_fillAll (List.nodup_append.mp hnodup).1 fun t _ => hempty t
  refine ⟨s₂, ?_, fun t => ?_⟩
  · rw [Store.applyAll_append]
    exact Attempt.bind_eq_ok.mpr ⟨s₁, hs₁, hs₂⟩
  · rw [hrows₂, hempty]

end Loadable

/-- When the last tables have been cleared, the store holds the first ones of what was there. -/
theorem exists_cleared {front back : List StoreTable} (htables : front ++ back = StoreTable.all)
    (s : Store) : ∃ s', s.applyAll (back.reverse.map .clear) = .ok s' ∧ s'.HoldsOnly s front := by
  obtain ⟨s', hs', hrows⟩ := Store.exists_clearAll back.reverse s
  refine ⟨s', hs', fun t => ?_⟩
  have hmem : t ∈ front ∨ t ∈ back := List.mem_append.mp (htables ▸ t.mem_all)
  have hdisjoint : front.Disjoint back :=
    List.disjoint_of_nodup_append (htables ▸ StoreTable.nodup_all)
  rw [hrows]
  by_cases ht : t ∈ front
  · rw [if_pos ht, if_neg fun hback => hdisjoint ht (List.mem_reverse.mp hback)]
  · rw [if_neg ht, if_pos (List.mem_reverse.mpr (hmem.resolve_left ht))]

/-- The first statements of a load clear the last tables, or clear all and fill the first ones. -/
theorem exists_take_statements (rows : Store) (n : Nat) :
    ∃ front back, front ++ back = StoreTable.all ∧
      ((statements rows).take n = back.reverse.map .clear ∨
        (statements rows).take n = clearing ++ front.map (filling rows)) := by
  have hlength : clearing.length = StoreTable.all.length := by
    rw [clearing, List.length_map, List.length_reverse]
  rw [statements, List.take_append, hlength]
  rcases Nat.le_total n StoreTable.all.length with hn | hn
  · refine ⟨_, _, List.take_append_drop (StoreTable.all.length - n) _, .inl ?_⟩
    rw [Nat.sub_eq_zero_of_le hn, List.take_zero, List.append_nil, clearing, ← List.map_take,
      List.take_reverse]
  · refine ⟨_, _, List.take_append_drop (n - StoreTable.all.length) _, .inr ?_⟩
    rw [List.take_of_length_le (hlength ▸ hn), List.map_take]

namespace Loadable

variable {rows : Store} (h : Loadable rows)
include h

theorem exists_prefix (hrows : rows.Resolved) {s : Store} (hs : s.Resolved) (n : Nat) :
    ∃ s', s.applyAll ((statements rows).take n) = .ok s' ∧ s'.Resolved := by
  obtain ⟨front, back, htables, htake | htake⟩ := exists_take_statements rows n
  · obtain ⟨s', hs', hholds⟩ := exists_cleared htables s
    exact ⟨s', htake ▸ hs', hholds.resolved hs htables⟩
  · obtain ⟨s', hs', hholds⟩ := h.exists_refilled htables s
    exact ⟨s', htake ▸ hs', hholds.resolved hrows htables⟩

theorem load_eq_ok (s : Store) : (load rows s).2 = .ok rows := by
  obtain ⟨s', hs', hholds⟩ := h.exists_refilled (List.append_nil StoreTable.all) s
  rw [result_load, statements, hs', hholds.eq]

end Loadable

theorem apply_filling_of_eq_nil {rows : Store} {t : StoreTable} (ht : rows.rows t = [])
    (hne : t ≠ .conversation) (s : Store) : s.apply (filling rows t) = .error .integrity := by
  rw [filling, ht]
  cases t with
  | conversation => exact absurd rfl hne
  | _ => rfl

theorem not_ok_of_eq_nil {rows : Store} {t : StoreTable} (ht : rows.rows t = [])
    (hne : t ≠ .conversation) {tables : List StoreTable} (hmem : t ∈ tables) (s s' : Store) :
    s.applyAll (tables.map (filling rows)) ≠ .ok s' := by
  intro h
  induction tables generalizing s with
  | nil => nomatch hmem
  | cons first rest ih =>
    obtain ⟨s₁, hs₁, hrest⟩ := Attempt.bind_eq_ok.mp h
    rcases List.mem_cons.mp hmem with rfl | hmem
    · rw [apply_filling_of_eq_nil ht hne] at hs₁
      nomatch hs₁
    · exact ih hmem s₁ hrest

theorem Integral.exists_eq_nil {sizes : Sizes} {rows : Store} (h : Integral sizes rows)
    (hz : sizes.Fillable) (hnot : ¬sizes.Positive) :
    ∃ t, t ≠ .conversation ∧ rows.rows t = [] := by
  have hnone : ∀ t, sizes.count t = 0 → rows.rows t = [] := by
    intro t ht
    have hids := h.map_id t
    rw [ht] at hids
    exact List.map_eq_nil_iff.mp hids
  obtain ⟨t, ht⟩ := not_forall.mp hnot
  have hzero : sizes.count t = 0 := by omega
  by_cases hconversation : t = .conversation
  · subst hconversation
    have hmessages : sizes.count .message = 0 := by
      by_contra hmessages
      exact ht (hz.conversations (Nat.pos_of_ne_zero hmessages))
    exact ⟨.message, nofun, hnone _ hmessages⟩
  · exact ⟨t, hconversation, hnone t hzero⟩

section Runs

variable {σ : Type} {supply : Supply σ} {sizes : Sizes} {state next : σ} {rows : Store}

theorem integral_of_generate_eq_ok (hs : supply.Fair) (hz : sizes.Fillable)
    (h : generate supply sizes state = (.ok rows, next)) : Integral sizes rows := by
  rcases ensures_generate hs hz state with herror | ⟨rows', hok, hintegral⟩
  · rw [h] at herror
    nomatch herror
  · rw [h] at hok
    exact Except.ok.inj hok ▸ hintegral

theorem run_of_load_eq_ok (h : generate supply sizes state = (.ok rows, next)) {store : Store}
    (hload : (load rows store).2 = .ok rows) (settings : Settings) :
    ∃ printed, run supply sizes settings store state = (⟨printed, .ok (), rows⟩, next) := by
  rcases hlines : load rows store with ⟨lines, result⟩
  obtain rfl : result = .ok rows := by rwa [hlines] at hload
  refine ⟨greeting settings :: lines ++ [farewell], ?_⟩
  simp only [run, h, hlines]

theorem run_of_not_positive (hs : supply.Fair) (hz : sizes.Fillable) (hnot : ¬sizes.Positive)
    (hrows : generate supply sizes state = (.ok rows, next)) (store : Store)
    (settings : Settings) :
    ∃ printed e, run supply sizes settings store state = (⟨printed, .error e, store⟩, next) := by
  obtain ⟨t, hne, ht⟩ := (integral_of_generate_eq_ok hs hz hrows).exists_eq_nil hz hnot
  have hload : ∀ s, (load rows store).2 ≠ .ok s := by
    intro s hok
    rw [result_load, statements, Store.applyAll_append] at hok
    obtain ⟨s₁, -, hfill⟩ := Attempt.bind_eq_ok.mp hok
    exact not_ok_of_eq_nil ht hne t.mem_all s₁ s hfill
  rcases hlines : load rows store with ⟨lines, e | s⟩
  · exact ⟨greeting settings :: lines, e, by simp only [run, hrows, hlines]⟩
  · exact absurd (congrArg Prod.snd hlines) (hload s)

/-- A run over a store without open references leaves none open between any two of its statements.
In the end the store holds the generated rows and nothing else, and another run with the same draws
leaves it as it is. -/
theorem reseeds (hs : supply.Fair) (hz : sizes.Positive)
    (hrows : generate supply sizes state = (.ok rows, next)) {store : Store}
    (hstore : store.Resolved) (settings : Settings) :
    (load rows store).2 = store.applyAll (statements rows) ∧
    (∀ n, ∃ between, store.applyAll ((statements rows).take n) = .ok between ∧
      between.Resolved) ∧
    (run supply sizes settings store state).1.result = .ok () ∧
    (run supply sizes settings store state).1.store = rows ∧
    ∀ settings', (run supply sizes settings' (run supply sizes settings store state).1.store
      state).1.store = (run supply sizes settings store state).1.store := by
  have hintegral := integral_of_generate_eq_ok hs hz.fillable hrows
  have hloadable := hintegral.loadable hz
  have hrun (store : Store) (settings : Settings) :=
    run_of_load_eq_ok hrows (hloadable.load_eq_ok store) settings
  refine ⟨result_load rows store, hloadable.exists_prefix hintegral.resolved hstore, ?_⟩
  obtain ⟨printed, hfirst⟩ := hrun store settings
  rw [hfirst]
  refine ⟨rfl, rfl, fun settings' => ?_⟩
  obtain ⟨printed', hsecond⟩ := hrun rows settings'
  rw [hsecond]

end Runs

def singleSizes : Sizes := ⟨1, 1, 1, 1, 1, 1, 1⟩

/-- A store with rows of every table, under other ids than those that are generated. -/
def formerStore : Store :=
  let noon : Timestamp := ⟨⟨2023, 5, 4⟩, 12, 0, 0, 0, none⟩
  { users := [⟨7, "ada", "ada@x.org", noon, noon⟩, ⟨1, "user1", "user1@a.com", noon, noon⟩]
    blogs := [⟨9, "old", "", 7, 1, noon, noon⟩]
    comments := [⟨3, "first", 1, 9, noon⟩]
    tags := [⟨5, "sql", 9, noon⟩]
    likes := [⟨2, 1, 9, noon⟩]
    conversations := [⟨4, none, false, some noon⟩]
    messages := [⟨8, "hello", 7, 4, noon⟩] }

theorem reseeds_formerStore :
    (Supply.congruential 100 40).Fair ∧ singleSizes.Positive ∧ formerStore.Resolved ∧
      ∃ rows next, generate (Supply.congruential 100 40) singleSizes ⟨7, 0⟩ = (.ok rows, next) ∧
        (∀ n, ∃ between, formerStore.applyAll ((statements rows).take n) = .ok between ∧
          between.Resolved) ∧
        (run (Supply.congruential 100 40) singleSizes {} formerStore ⟨7, 0⟩).1.store = rows := by
  have hpositive : singleSizes.Positive := by
    intro t
    cases t <;> decide
  have hresolved : formerStore.Resolved := by
    intro t
    cases t <;> decide
  have hok : (generate (Supply.congruential 100 40) singleSizes ⟨7, 0⟩).1.toBool := by
    decide +kernel
  rcases hrows : generate (Supply.congruential 100 40) singleSizes ⟨7, 0⟩ with ⟨e | rows, next⟩
  · rw [hrows] at hok
    nomatch hok
  · obtain ⟨-, hbetween, -, hstore, -⟩ :=
      reseeds (Congruential.fair 100 40) hpositive hrows hresolved {}
    exact ⟨Congruential.fair _ _, hpositive, hresolved, rows, next, rfl, hbetween, hstore⟩

end QueryGate.Seed
