import Mathlib.Data.String.Basic
import QueryGate.Proofs.Query.Execute
import QueryGate.Proofs.Store.Selection

/-!
# Texts of moments in the order of time

Answers show a moment with a fraction only where it has one, the store compares moments with all
six places. Of moments without an offset both texts are in the order of time, so that rows come with
texts of creation that never increase. Main statement: `Query.texts_ordered`.
-/

set_option autoImplicit false

namespace QueryGate

namespace Scalar

theorem lt_iff_compareChars {s t : String} : s < t ↔ compareChars s.toList t.toList = .lt := by
  rw [String.lt_iff_toList_lt]
  generalize s.toList = as
  generalize t.toList = bs
  induction as generalizing bs with
  | nil => cases bs <;> simp [compareChars]
  | cons a as ih =>
    cases bs with
    | nil => simp [compareChars]
    | cons b bs =>
      rw [List.cons_lt_cons_iff, compareChars_cons, Ordering.then_eq_lt, ih, Nat.compare_eq_lt,
        Nat.compare_eq_eq, Char.toNat_inj]
      exact Iff.rfl

end Scalar

namespace Timestamp

/-- A moment of the calendar and the clock without an offset. -/
structure IsLocal (t : Timestamp) : Prop where
  valid : t.IsValid
  offset : t.offset = none

section Order

variable {a b : Timestamp}

/-- A fraction is written only where there is one, and nothing comes before every fraction. -/
theorem compareChars_fraction {m n : Nat} (hm : m < 10 ^ 6) (hn : n < 10 ^ 6) :
    Scalar.compareChars (if m = 0 then [] else '.' :: Text.fixedDigits 6 m)
      (if n = 0 then [] else '.' :: Text.fixedDigits 6 n) = compare m n := by
  rcases Nat.eq_zero_or_pos m with rfl | hmpos
  · rcases Nat.eq_zero_or_pos n with rfl | hnpos
    · rfl
    · rw [if_pos rfl, if_neg hnpos.ne', Nat.compare_eq_lt.mpr hnpos]
      rfl
  · rcases Nat.eq_zero_or_pos n with rfl | hnpos
    · rw [if_pos rfl, if_neg hmpos.ne', Nat.compare_eq_gt.mpr hmpos]
      rfl
    · rw [if_neg hmpos.ne', if_neg hnpos.ne', Scalar.compareChars_cons_self,
        Text.compareChars_fixedDigits hm hn]

theorem compareChars_isoText (ha : a.IsLocal) (hb : b.IsLocal) :
    Scalar.compareChars a.isoText.toList b.isoText.toList =
      List.compareLex compare a.fields b.fields := by
  obtain ⟨-, -, -, -, -, -, hau⟩ := ha.valid.bounds
  obtain ⟨-, -, -, -, -, -, hbu⟩ := hb.valid.bounds
  rw [isoText, isoText, String.toList_ofList, String.toList_ofList, ha.offset, hb.offset,
    List.append_nil, List.append_nil]
  exact compareChars_dated ha.valid hb.valid 'T' (compareChars_fraction hau hbu)

theorem isoText_lt_iff (ha : a.IsLocal) (hb : b.IsLocal) :
    a.isoText < b.isoText ↔ a.isBefore b := by
  rw [Scalar.lt_iff_compareChars, compareChars_isoText ha hb, compareLex_eq_lt, isBefore,
    decide_eq_true_eq]

theorem storedText_lt_iff (ha : a.IsLocal) (hb : b.IsLocal) :
    a.storedText < b.storedText ↔ a.isBefore b := by
  rw [Scalar.lt_iff_compareChars, compareChars_storedText ha.valid hb.valid, compareLex_eq_lt,
    isBefore, decide_eq_true_eq]

end Order

end Timestamp

theorem Blog.not_isBefore_of_comesFirst {a b : Blog} (ha : a.createdAt.IsLocal)
    (hb : b.createdAt.IsLocal) (h : a.comesFirst b) : ¬a.createdAt.isBefore b.createdAt := by
  have hcompare : compareCreation a b ≠ .lt := by
    rcases comesFirst_iff.mp h with hgt | ⟨heq, -⟩
    · simp [hgt]
    · simp [heq]
  rw [← Timestamp.storedText_lt_iff ha hb, Scalar.lt_iff_compareChars]
  exact hcompare

namespace Store

theorem blog_mem_of_mem_candidates {s : Store} {joinsAuthor : Bool} {m : Match}
    (h : m ∈ s.candidates joinsAuthor) : m.blog ∈ s.blogs := by
  unfold candidates at h
  split at h
  · obtain ⟨b, hb, hm⟩ := List.mem_flatMap.mp h
    obtain ⟨u, -, rfl⟩ := List.mem_map.mp hm
    exact hb
  · obtain ⟨b, hb, rfl⟩ := List.mem_map.mp h
    exact hb

end Store

namespace Select

variable {s : Select} {store : Store}

theorem outputs_addRelation {identifying : List (String × List Value)} {s s' : Select}
    {group : String × Conditions} (h : addRelation identifying s group = .ok s') :
    s'.outputs = s.outputs := by
  obtain ⟨relation, conditions⟩ := group
  unfold addRelation at h
  dsimp only at h
  split at h
  · obtain ⟨clauses, -, h⟩ := Attempt.bind_eq_ok.mp h
    obtain ⟨nested, -, h⟩ := Attempt.bind_eq_ok.mp h
    cases h
    rfl
  · nomatch h

theorem outputs_addRelations {identifying : List (String × List Value)}
    {groups : List (String × Conditions)} {s s' : Select}
    (h : groups.foldlM (addRelation identifying) s = .ok s') : s'.outputs = s.outputs := by
  induction groups generalizing s with
  | nil => exact congrArg outputs (Except.ok.inj h).symm
  | cons group rest ih =>
    obtain ⟨s₁, hs₁, hrest⟩ := Attempt.bind_eq_ok.mp h
    exact (ih hrest).trans (outputs_addRelation hs₁)

theorem outputs_of_ofQuery {q : Query} (h : ofQuery q = .ok s) :
    List.Forall₂ IsOwn q.projection s.outputs := by
  obtain ⟨outputs, houtputs, h⟩ := Attempt.bind_eq_ok.mp h
  obtain ⟨clauses, -, h⟩ := Attempt.bind_eq_ok.mp h
  rw [outputs_addRelations h]
  exact ownOutputs_eq_ok.mp houtputs

theorem pairwise_chosen (bounds : List BoundClause) :
    (s.chosen bounds store).Pairwise fun m m' => m.blog.comesFirst m'.blog := by
  refine List.Pairwise.sublist (cut_sublist _ _) (List.pairwise_mergeSort ?_ ?_ _)
  · exact fun m m' m'' => Blog.comesFirst_trans m.blog m'.blog m''.blog
  · exact fun m m' => Blog.comesFirst_total m.blog m'.blog

theorem createdAt_row {names : List String} (houtputs : List.Forall₂ IsOwn names s.outputs)
    (hcreated : "createdAt" ∈ names) (m : Match) :
    (s.row m).memberD "createdAt" = .text m.blog.createdAt.isoText := by
  have hget : Assoc.get? "createdAt" (s.ownMembers m) =
      some (.text m.blog.createdAt.isoText) := by
    rw [ownMembers_eq houtputs, Assoc.get?_map_pair, if_pos hcreated]
    rfl
  rw [Value.memberD, row, Value.member?, Assoc.get?_append, hget]
  rfl

end Select

namespace Query

/-- The texts of two moments, as answers show them and as the store compares them, are in the order
of the moments; and the rows of a query that asks when its blogs were created show texts that never
increase. -/
theorem texts_ordered :
    (∀ a b : Timestamp, a.IsLocal → b.IsLocal →
      ∃ shown shown', (StoredValue.plain (.moment a)).serialise = .ok (.text shown) ∧
        (StoredValue.plain (.moment b)).serialise = .ok (.text shown') ∧
        (¬b.isBefore a ↔ shown ≤ shown') ∧ (¬b.isBefore a ↔ a.storedText ≤ b.storedText)) ∧
    ∀ (q : Query) (store : Store) (timeout : Value) (table : Option String) (rows : List Value),
      (∀ b ∈ store.blogs, b.createdAt.IsLocal) → "createdAt" ∈ q.projection →
        q.rows store timeout table = .ok rows →
          ∃ texts : List String, rows.map (·.memberD "createdAt") = texts.map .text ∧
            texts.Pairwise fun earlier later => later ≤ earlier := by
  constructor
  · intro a b ha hb
    refine ⟨_, _, rfl, rfl, ?_, ?_⟩
    · rw [← not_lt, Timestamp.isoText_lt_iff hb ha]
    · rw [← not_lt, Timestamp.storedText_lt_iff hb ha]
  · intro q store timeout table rows hcreated hprojection hrows
    have hserved : StoreTable.ofName? (q.servedTable table) = some .blog := by
      by_contra hnot
      rw [rows_eq_error store timeout hnot] at hrows
      nomatch hrows
    rw [rows_eq store timeout hserved] at hrows
    obtain ⟨s, hs, hrun⟩ := Attempt.bind_eq_ok.mp (Attempt.mapError_eq_ok.mp hrows)
    obtain ⟨bounds, -, hanswer⟩ := Attempt.bind_eq_ok.mp hrun
    obtain rfl := Select.eq_map_row_of_answer hanswer
    have hlocal : ∀ m ∈ s.chosen bounds store, m.blog.createdAt.IsLocal := fun m hm =>
      hcreated _ (Store.blog_mem_of_mem_candidates (Select.mem_candidates_of_mem_chosen hm))
    refine ⟨(s.chosen bounds store).map (·.blog.createdAt.isoText), ?_, ?_⟩
    · rw [List.map_map, List.map_map]
      exact List.map_congr_left fun m _ =>
        Select.createdAt_row (Select.outputs_of_ofQuery hs) hprojection m
    · refine List.pairwise_map.mpr ((Select.pairwise_chosen bounds).imp_of_mem ?_)
      intro m m' hm hm' hfirst
      rw [← not_lt, Timestamp.isoText_lt_iff (hlocal m hm) (hlocal m' hm')]
      exact Blog.not_isBefore_of_comesFirst (hlocal m hm) (hlocal m' hm') hfirst

def earlierBlog : Blog :=
  let lastMicro : Timestamp := ⟨⟨2024, 5, 6⟩, 12, 0, 5, 999999, none⟩
  ⟨1, "earlier", "", 1, 0, lastMicro, lastMicro⟩

def laterBlog : Blog :=
  let nextSecond : Timestamp := ⟨⟨2024, 5, 6⟩, 12, 0, 6, 0, none⟩
  ⟨2, "later", "", 1, 0, nextSecond, nextSecond⟩

def boundaryStore : Store := { Store.empty with blogs := [earlierBlog, laterBlog] }

def creationQuery : Query := ⟨"Blog", .empty, ["createdAt"], 10, []⟩

def creationSelection : Select :=
  ⟨[("createdAt", ⟨⟨"Blog", ⟨"createdAt", .moment⟩⟩, "createdAt"⟩)], [], false, [], 10⟩

theorem chosen_creationSelection :
    creationSelection.chosen [] boundaryStore = [⟨laterBlog, none⟩, ⟨earlierBlog, none⟩] := by
  have hsecond : earlierBlog.comesFirst laterBlog = false := by decide
  simp [Select.chosen, Store.candidates, creationSelection, boundaryStore, List.mergeSort,
    List.MergeSort.Internal.splitInTwo, hsecond, Select.cut]

theorem rows_creationQuery : creationQuery.rows boundaryStore .null none =
    .ok [.object [("createdAt", .text "2024-05-06T12:00:06")],
      .object [("createdAt", .text "2024-05-06T12:00:05.999999")]] := by
  have hcrosses : creationQuery.CrossesAuthorOnly := ⟨List.nodup_nil, nofun⟩
  have hselection : Select.ofQuery creationQuery = .ok creationSelection := rfl
  have hrun : creationSelection.run boundaryStore =
      .ok ((creationSelection.chosen [] boundaryStore).map creationSelection.row) :=
    Select.run_eq_ok ((Select.ofQuery_eq_ok hcrosses).mp hselection) .nil (by decide)
      (.inl (List.cons_ne_nil _ _)) (by decide) List.nodup_nil
  rw [rows_eq boundaryStore .null (by decide), hselection, Attempt.ok_bind, hrun,
    chosen_creationSelection]
  cbv

theorem texts_ordered_boundaryStore :
    earlierBlog.createdAt.IsLocal ∧ laterBlog.createdAt.IsLocal ∧
      earlierBlog.createdAt.isoText ≤ laterBlog.createdAt.isoText ∧
      (∀ b ∈ boundaryStore.blogs, b.createdAt.IsLocal) ∧ "createdAt" ∈ creationQuery.projection ∧
      ∃ rows, creationQuery.rows boundaryStore .null none = .ok rows ∧ rows.length = 2 ∧
        ∃ texts : List String, rows.map (·.memberD "createdAt") = texts.map .text ∧
          texts.Pairwise fun earlier later => later ≤ earlier := by
  have hearlier : earlierBlog.createdAt.IsLocal := ⟨rfl, rfl⟩
  have hlater : laterBlog.createdAt.IsLocal := ⟨rfl, rfl⟩
  have hlocal : ∀ b ∈ boundaryStore.blogs, b.createdAt.IsLocal := by
    intro b hb
    simp only [boundaryStore, List.mem_cons, List.not_mem_nil, or_false] at hb
    rcases hb with rfl | rfl
    · exact hearlier
    · exact hlater
  obtain ⟨shown, shown', hshown, hshown', horder, -⟩ := texts_ordered.1 _ _ hearlier hlater
  cases hshown
  cases hshown'
  exact ⟨hearlier, hlater, horder.mp (by decide), hlocal, by decide, _, rows_creationQuery, rfl,
    texts_ordered.2 creationQuery boundaryStore .null none _ hlocal (by decide)
      rows_creationQuery⟩

end Query

end QueryGate
