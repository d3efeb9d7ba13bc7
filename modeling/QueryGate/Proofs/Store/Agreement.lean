import Mathlib.Data.List.Nodup
import QueryGate.Proofs.Store.Selection

/-!
# Stores that agree on what a query reads

A query reads the columns it names, the ids, the moments of creation and the authors of blogs, and
nothing else. Main statement: `Query.describe_newest_eq`, of two stores that agree on those the
query describes the same rows in the same order. The proof pairs every blog of the one store with
its twin of the other: twins are admitted together, described alike and sorted alike.
-/

set_option autoImplicit false

namespace QueryGate

theorem Conditions.hold_congr {cs : Conditions} {cell? other? : String → Option Cell}
    (h : ∀ g ∈ cs, cell? g.1 = other? g.1) : cs.hold cell? = cs.hold other? := by
  have hflat : ∀ p ∈ cs.flat, cell? p.1 = other? p.1 := by
    intro p hp
    obtain ⟨g, hg, hmem⟩ := List.mem_flatMap.mp hp
    obtain ⟨cond, -, rfl⟩ := List.mem_map.mp hmem
    exact h g hg
  rw [hold, hold, Bool.eq_iff_iff, List.all_eq_true, List.all_eq_true]
  constructor
  · intro hall p hp
    rw [← hflat p hp]
    exact hall p hp
  · intro hall p hp
    rw [hflat p hp]
    exact hall p hp

namespace Blog

theorem mergeSort_eq_of_perm {xs ys : List Blog} (hperm : xs.Perm ys)
    (hids : (xs.map (·.id)).Nodup) : xs.mergeSort comesFirst = ys.mergeSort comesFirst := by
  have hsorted : ∀ l : List Blog, (l.mergeSort comesFirst).Pairwise fun a b => a.comesFirst b :=
    List.pairwise_mergeSort comesFirst_trans comesFirst_total
  have hboth : (xs.mergeSort comesFirst).Perm (ys.mergeSort comesFirst) :=
    ((List.mergeSort_perm xs _).trans hperm).trans (List.mergeSort_perm ys _).symm
  refine hboth.eq_of_pairwise ?_ (hsorted xs) (hsorted ys)
  intro a b ha hb hab hba
  have hax : a ∈ xs := List.mem_mergeSort.mp ha
  have hbx : b ∈ xs := hperm.mem_iff.mpr (List.mem_mergeSort.mp hb)
  exact List.inj_on_of_nodup_map hids hax hbx (id_eq_of_comesFirst hab hba)

end Blog

section Twins

variable {xs ys : List Blog}

def twin (ys : List Blog) (x : Blog) : Blog := (ys.find? (·.id == x.id)).getD x

theorem twin_spec (hids : ∀ id, id ∈ xs.map (·.id) ↔ id ∈ ys.map (·.id)) {x : Blog}
    (hx : x ∈ xs) : twin ys x ∈ ys ∧ (twin ys x).id = x.id := by
  obtain ⟨y, hy, hid⟩ := List.mem_map.mp ((hids x.id).mp (List.mem_map_of_mem hx))
  have hsome : (ys.find? (·.id == x.id)).isSome :=
    List.find?_isSome.mpr ⟨y, hy, beq_iff_eq.mpr hid⟩
  obtain ⟨z, hz⟩ := Option.isSome_iff_exists.mp hsome
  rw [twin, hz]
  exact ⟨List.mem_of_find?_eq_some hz, by simpa using List.find?_some hz⟩

theorem map_twin_perm (hxs : (xs.map (·.id)).Nodup) (hys : (ys.map (·.id)).Nodup)
    (hids : ∀ id, id ∈ xs.map (·.id) ↔ id ∈ ys.map (·.id)) : (xs.map (twin ys)).Perm ys := by
  have hsame : (xs.map (twin ys)).map (·.id) = xs.map (·.id) := by
    rw [List.map_map]
    exact List.map_congr_left fun x hx => (twin_spec hids hx).2
  have htwins : (xs.map (twin ys)).Nodup := by
    rw [← hsame] at hxs
    exact hxs.of_map _
  rw [List.perm_ext_iff_of_nodup htwins (hys.of_map _)]
  intro y
  constructor
  · intro hy
    obtain ⟨x, hx, rfl⟩ := List.mem_map.mp hy
    exact (twin_spec hids hx).1
  · intro hy
    obtain ⟨x, hx, hid⟩ := List.mem_map.mp ((hids y.id).mpr (List.mem_map_of_mem hy))
    obtain ⟨htwin, htwinId⟩ := twin_spec hids hx
    have heq : twin ys x = y := List.inj_on_of_nodup_map hys htwin hy (htwinId.trans hid)
    exact heq ▸ List.mem_map_of_mem hx

/-- Lists whose blogs agree by id give the same rows, whatever is read off each pair alike. -/
theorem map_take_mergeSort_eq {β : Type} (hxs : (xs.map (·.id)).Nodup)
    (hys : (ys.map (·.id)).Nodup) (hids : ∀ id, id ∈ xs.map (·.id) ↔ id ∈ ys.map (·.id))
    {test test' : Blog → Bool} {shown shown' : Blog → β}
    (h : ∀ x ∈ xs, ∀ y ∈ ys, x.id = y.id →
      x.createdAt = y.createdAt ∧ test x = test' y ∧ shown x = shown' y) (limit : Nat) :
    (((xs.filter test).mergeSort Blog.comesFirst).take limit).map shown =
      (((ys.filter test').mergeSort Blog.comesFirst).take limit).map shown' := by
  have htwin : ∀ x ∈ xs, x.createdAt = (twin ys x).createdAt ∧ test x = test' (twin ys x) ∧
      shown x = shown' (twin ys x) := by
    intro x hx
    obtain ⟨hmem, hid⟩ := twin_spec hids hx
    exact h x hx _ hmem hid.symm
  have hfilter : (xs.map (twin ys)).filter test' = (xs.filter test).map (twin ys) := by
    rw [List.filter_map]
    congr 1
    exact List.filter_congr fun x hx => (htwin x hx).2.1.symm
  have hperm : ((xs.filter test).map (twin ys)).Perm (ys.filter test') := by
    rw [← hfilter]
    exact (map_twin_perm hxs hys hids).filter _
  have hnodup : (((xs.filter test).map (twin ys)).map (·.id)).Nodup := by
    refine (hperm.map _).nodup_iff.mpr ?_
    exact hys.sublist (List.filter_sublist.map _)
  -- Sorting reads moments and ids alone, which twins share, so it commutes with `twin`.
  have hsort : ((xs.filter test).mergeSort Blog.comesFirst).map (twin ys) =
      (ys.filter test').mergeSort Blog.comesFirst := by
    rw [← Blog.mergeSort_eq_of_perm hperm hnodup]
    refine List.map_mergeSort ?_
    intro x hx x' hx'
    have hx := List.mem_of_mem_filter hx
    have hx' := List.mem_of_mem_filter hx'
    exact Blog.comesFirst_congr ⟨(htwin x hx).1, (twin_spec hids hx).2.symm⟩
      ⟨(htwin x' hx').1, (twin_spec hids hx').2.symm⟩
  rw [← hsort, ← List.map_take, List.map_map]
  refine List.map_congr_left ?_
  intro x hx
  have hsorted := List.mem_mergeSort.mp (List.mem_of_mem_take hx)
  exact (htwin x (List.mem_of_mem_filter hsorted)).2.2

end Twins

/-- Ids are primary keys of blogs and of users. -/
structure Store.Keyed (s : Store) : Prop where
  blogs : (s.blogs.map (·.id)).Nodup
  users : (s.users.map (·.id)).Nodup

/-- The stores have blogs and users under the same ids; blogs of one id agree on their creation,
their author's id and the columns that pass the first test, users of one id on those that pass the
second. Nothing is said about any other column. -/
structure Store.AgreeOn (own author : String → Prop) (a b : Store) : Prop where
  blogIds : ∀ id, id ∈ a.blogs.map (·.id) ↔ id ∈ b.blogs.map (·.id)
  userIds : ∀ id, id ∈ a.users.map (·.id) ↔ id ∈ b.users.map (·.id)
  blogs : ∀ x ∈ a.blogs, ∀ y ∈ b.blogs, x.id = y.id →
    x.createdAt = y.createdAt ∧ x.userId = y.userId ∧ ∀ name, own name → x.cell? name = y.cell? name
  users : ∀ u ∈ a.users, ∀ v ∈ b.users, u.id = v.id →
    ∀ name, author name → u.cell? name = v.cell? name

/-- The query names only columns that pass the tests, of blogs and of their authors. -/
structure Query.ReadsOnly (own author : String → Prop) (q : Query) : Prop where
  projection : ∀ name ∈ q.projection, own name
  fields : ∀ g ∈ q.predicate.fields, own g.1
  authorConditions : ∀ g ∈ q.authorConditions, author g.1
  authorColumns : ∀ name, Value.text name ∈ q.authorColumns → author name

section Reading

variable {own author : String → Prop} {a b : Store} {x y : Blog}

theorem Store.AgreeOn.author?_cases (h : a.AgreeOn own author b) (hauthor : x.userId = y.userId) :
    (a.author? x = none ∧ b.author? y = none) ∨
      ∃ u v, a.author? x = some u ∧ b.author? y = some v ∧
        ∀ name, author name → u.cell? name = v.cell? name := by
  have hiff : (a.author? x).isSome ↔ (b.author? y).isSome := by
    simp only [author?, List.find?_isSome, beq_iff_eq, ← List.mem_map, hauthor]
    exact h.userIds y.userId
  cases hu : a.author? x with
  | none =>
    rw [hu] at hiff
    exact .inl ⟨rfl, by simpa using hiff⟩
  | some u =>
    rw [hu] at hiff
    obtain ⟨v, hv⟩ := Option.isSome_iff_exists.mp (hiff.mp rfl)
    have huid : u.id = x.userId := by simpa using List.find?_some hu
    have hvid : v.id = y.userId := by simpa using List.find?_some hv
    refine .inr ⟨u, v, rfl, hv, ?_⟩
    exact h.users u (List.mem_of_find?_eq_some hu) v (List.mem_of_find?_eq_some hv)
      (by rw [huid, hvid, hauthor])

variable {q : Query} (hq : q.ReadsOnly own author) (h : a.AgreeOn own author b)
  (hx : x ∈ a.blogs) (hy : y ∈ b.blogs) (hid : x.id = y.id)
include hq h hx hy hid

theorem Query.admits_eq : q.admits a x = q.admits b y := by
  obtain ⟨-, hauthor, hcells⟩ := h.blogs x hx y hy hid
  have hown : q.predicate.fields.hold x.cell? = q.predicate.fields.hold y.cell? :=
    Conditions.hold_congr fun g hg => hcells _ (hq.fields g hg)
  rw [admits, admits, hown]
  congr 2
  rcases h.author?_cases hauthor with ⟨hu, hv⟩ | ⟨u, v, hu, hv, hagree⟩
  · rw [hu, hv]
  · have hbehind : q.authorConditions.hold u.cell? = q.authorConditions.hold v.cell? :=
      Conditions.hold_congr fun g hg => hagree _ (hq.authorConditions g hg)
    rw [hu, hv, Option.any_some, Option.any_some, hbehind]

theorem Query.describe_eq : q.describe a x = q.describe b y := by
  obtain ⟨-, hauthor, hcells⟩ := h.blogs x hx y hy hid
  have hown : (q.projection.map fun name => (name, shownCell x.cell? name)) =
      q.projection.map fun name => (name, shownCell y.cell? name) := by
    refine List.map_congr_left ?_
    intro name hname
    rw [shownCell, shownCell, hcells name (hq.projection name hname)]
  have hcolumns : ∀ name ∈ q.authorColumns.filterMap Value.text?,
      (a.author? x).bind (·.cell? name) = (b.author? y).bind (·.cell? name) := by
    intro name hname
    obtain ⟨v, hv, htext⟩ := List.mem_filterMap.mp hname
    have hread := hq.authorColumns name (Value.text?_eq_some.mp htext ▸ hv)
    rcases h.author?_cases hauthor with ⟨hu, hv⟩ | ⟨u, v, hu, hv, hagree⟩
    · rw [hu, hv]
    · rw [hu, hv]
      exact hagree name hread
  have hnested : ((q.authorColumns.filterMap Value.text?).map fun name =>
        (name, shownCell (fun name => (a.author? x).bind (·.cell? name)) name)) =
      (q.authorColumns.filterMap Value.text?).map fun name =>
        (name, shownCell (fun name => (b.author? y).bind (·.cell? name)) name) := by
    refine List.map_congr_left ?_
    intro name hname
    simp only [shownCell, hcolumns name hname]
  rw [describe, describe, hown]
  simp only [hnested]

end Reading

theorem Query.describe_newest_eq {own author : String → Prop} {q : Query}
    (hq : q.ReadsOnly own author) {a b : Store} (h : a.AgreeOn own author b)
    (ha : a.Keyed) (hb : b.Keyed) (limit : Nat) :
    (((a.blogs.filter (q.admits a)).mergeSort Blog.comesFirst).take limit).map (q.describe a) =
      (((b.blogs.filter (q.admits b)).mergeSort Blog.comesFirst).take limit).map
        (q.describe b) := by
  refine map_take_mergeSort_eq ha.blogs hb.blogs h.blogIds ?_ limit
  intro x hx y hy hid
  exact ⟨(h.blogs x hx y hy hid).1, admits_eq hq h hx hy hid, describe_eq hq h hx hy hid⟩

end QueryGate
