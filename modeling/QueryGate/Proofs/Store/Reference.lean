import Mathlib.Data.List.Nodup
import QueryGate.Proofs.Attempt
import QueryGate.Store.Rows

/-!
# References between rows

Rows refer to rows of other tables by id. `StoreTable.all` puts every table behind those that its
rows refer to, so that a store which holds the tables up to some place only, from a store in which
all references resolve, leaves none of them open (`Store.HoldsOnly.resolved`). What clearing tables
and inserting rows does to the rows of each table is `Store.exists_clearAll` and
`Store.exists_insertAll`.
-/

set_option autoImplicit false

namespace QueryGate

namespace Row

def table : Row → StoreTable
  | .user _ => .user
  | .blog _ => .blog
  | .comment _ => .comment
  | .tag _ => .tag
  | .like _ => .like
  | .conversation _ => .conversation
  | .message _ => .message

def id : Row → Int
  | .user u => u.id
  | .blog b => b.id
  | .comment c => c.id
  | .tag t => t.id
  | .like l => l.id
  | .conversation c => c.id
  | .message m => m.id

def references : Row → List (StoreTable × Int)
  | .user _ | .conversation _ => []
  | .blog b => [(.user, b.userId)]
  | .comment c => [(.user, c.userId), (.blog, c.blogId)]
  | .tag t => [(.blog, t.blogId)]
  | .like l => [(.user, l.userId), (.blog, l.blogId)]
  | .message m => [(.user, m.senderId), (.conversation, m.conversationId)]

/-- Rows that one table can hold together: their ids differ, and users have names and addresses of
their own. -/
structure Apart (r r' : Row) : Prop where
  ids : r.id ≠ r'.id
  users : ∀ u v, r = .user u → r' = .user v → u.username ≠ v.username ∧ u.email ≠ v.email

end Row

namespace StoreTable

def targets : StoreTable → List StoreTable
  | .user | .conversation => []
  | .blog => [.user]
  | .comment | .like => [.user, .blog]
  | .tag => [.blog]
  | .message => [.user, .conversation]

theorem mem_all (t : StoreTable) : t ∈ all := by
  cases t <;> decide

theorem nodup_all : all.Nodup := by decide

theorem pairwise_all : all.Pairwise fun t t' => t' ∉ t.targets := by decide

theorem targets_subset_of_append {front back : List StoreTable} (h : front ++ back = all)
    {t : StoreTable} (ht : t ∈ front) : t.targets ⊆ front := by
  intro target htarget
  have hmem : target ∈ front ++ back := h ▸ mem_all target
  have hordered : (front ++ back).Pairwise fun t t' => t' ∉ t.targets := h ▸ pairwise_all
  refine (List.mem_append.mp hmem).resolve_right fun hback => ?_
  exact (List.pairwise_append.mp hordered).2.2 t ht target hback htarget

end StoreTable

theorem Row.mem_targets {row : Row} {r : StoreTable × Int} (h : r ∈ row.references) :
    r.1 ∈ row.table.targets := by
  cases row <;> simp only [references, List.mem_cons, List.not_mem_nil, or_false] at h
  all_goals rcases h with rfl | rfl <;> simp [table, StoreTable.targets]

namespace Store

/-- Every reference of a row names a row of the store. -/
def Resolved (s : Store) : Prop :=
  ∀ t, ∀ row ∈ s.rows t, ∀ r ∈ row.references, ∃ target ∈ s.rows r.1, target.id = r.2

/-- The first store holds what the second one does in these tables, and nothing in the others. -/
def HoldsOnly (s' s : Store) (tables : List StoreTable) : Prop :=
  ∀ t, s'.rows t = if t ∈ tables then s.rows t else []

theorem table_of_mem_rows {s : Store} {t : StoreTable} {row : Row} (h : row ∈ s.rows t) :
    row.table = t := by
  cases t <;> obtain ⟨_, -, rfl⟩ := List.mem_map.mp h <;> rfl

theorem eq_of_rows {s s' : Store} (h : ∀ t, s.rows t = s'.rows t) : s = s' := by
  have hinj {α : Type} {f : α → Row} (hf : ∀ a b, f a = f b → a = b) {xs ys : List α}
      (hxs : xs.map f = ys.map f) : xs = ys := List.map_injective_iff.mpr hf hxs
  obtain ⟨users, blogs, comments, tags, likes, conversations, messages⟩ := s
  obtain ⟨users', blogs', comments', tags', likes', conversations', messages'⟩ := s'
  obtain rfl : users = users' := hinj (fun _ _ => Row.user.inj) (h .user)
  obtain rfl : blogs = blogs' := hinj (fun _ _ => Row.blog.inj) (h .blog)
  obtain rfl : comments = comments' := hinj (fun _ _ => Row.comment.inj) (h .comment)
  obtain rfl : tags = tags' := hinj (fun _ _ => Row.tag.inj) (h .tag)
  obtain rfl : likes = likes' := hinj (fun _ _ => Row.like.inj) (h .like)
  obtain rfl : conversations = conversations' :=
    hinj (fun _ _ => Row.conversation.inj) (h .conversation)
  obtain rfl : messages = messages' := hinj (fun _ _ => Row.message.inj) (h .message)
  rfl

namespace HoldsOnly

variable {s s' : Store}

theorem resolved {front back : List StoreTable} (h : s'.HoldsOnly s front) (hs : s.Resolved)
    (htables : front ++ back = StoreTable.all) : s'.Resolved := by
  intro t row hrow r hr
  rw [h t] at hrow
  split at hrow
  · rename_i ht
    have htable : row.table = t := table_of_mem_rows hrow
    have htarget : r.1 ∈ front :=
      StoreTable.targets_subset_of_append htables ht (htable ▸ Row.mem_targets hr)
    rw [h r.1, if_pos htarget]
    exact hs t row hrow r hr
  · nomatch hrow

theorem eq (h : s'.HoldsOnly s StoreTable.all) : s' = s :=
  eq_of_rows fun t => (h t).trans (if_pos t.mem_all)

end HoldsOnly

theorem rows_clear (s : Store) (t t' : StoreTable) :
    (s.clear t).rows t' = if t' = t then [] else s.rows t' := by
  cases t <;> cases t' <;> rfl

theorem applyAll_append (s : Store) (xs ys : List Change) :
    s.applyAll (xs ++ ys) = s.applyAll xs >>= fun s' => s'.applyAll ys :=
  List.foldlM_append

theorem exists_clearAll (tables : List StoreTable) (s : Store) :
    ∃ s', s.applyAll (tables.map .clear) = .ok s' ∧
      ∀ t, s'.rows t = if t ∈ tables then [] else s.rows t := by
  induction tables generalizing s with
  | nil => exact ⟨s, rfl, fun t => (if_neg List.not_mem_nil).symm⟩
  | cons table rest ih =>
    obtain ⟨s', hs', hrows⟩ := ih (s.clear table)
    refine ⟨s', hs', fun t => ?_⟩
    rw [hrows, rows_clear]
    by_cases ht : t = table
    · rw [if_pos ht, if_pos (List.mem_cons.mpr (.inl ht)), ite_self]
    · simp only [if_neg ht, List.mem_cons, or_iff_right ht]

theorem exists_insertRow {s : Store} {row : Row} (h : ∀ r ∈ s.rows row.table, r.Apart row) :
    ∃ s', s.insertRow row = .ok s' ∧
      ∀ t, s'.rows t = if t = row.table then s.rows t ++ [row] else s.rows t := by
  have hnew {α : Type} {xs : List α} {toRow : α → Row} {key : α → Int}
      (hrows : s.rows row.table = xs.map toRow) (hkey : ∀ x, (toRow x).id = key x) :
      ¬xs.any (key · == row.id) := by
    simp only [List.any_eq_true, beq_iff_eq, not_exists, not_and]
    intro x hx
    have hx' : toRow x ∈ s.rows row.table := hrows ▸ List.mem_map_of_mem hx
    exact hkey x ▸ (h _ hx').ids
  cases row with
  | user u =>
    have hnone : ¬s.users.any fun v =>
        v.id == u.id || v.username == u.username || v.email == u.email := by
      simp only [List.any_eq_true, Bool.or_eq_true, beq_iff_eq, not_exists, not_and, not_or]
      intro v hv
      have hapart := h (.user v) (List.mem_map_of_mem hv)
      exact ⟨⟨hapart.ids, (hapart.users v u rfl rfl).1⟩, (hapart.users v u rfl rfl).2⟩
    refine ⟨_, if_neg hnone, fun t => ?_⟩
    cases t <;> simp [rows, Row.table]
  | blog _ | comment _ | tag _ | like _ | conversation _ | message _ =>
    refine ⟨_, if_neg (hnew rfl fun _ => rfl), fun t => ?_⟩
    cases t <;> simp [rows, Row.table]

/-- Rows of one table that are apart from each other and from those there are put behind them. -/
theorem exists_insertAll {t : StoreTable} {added : List Row} (htable : ∀ row ∈ added, row.table = t)
    {s : Store} (h : (s.rows t ++ added).Pairwise Row.Apart) :
    ∃ s', s.apply (.insert added) = .ok s' ∧
      ∀ t', s'.rows t' = if t' = t then s.rows t' ++ added else s.rows t' := by
  induction added generalizing s with
  | nil => exact ⟨s, rfl, fun t' => by rw [List.append_nil, ite_self]⟩
  | cons row rest ih =>
    obtain ⟨rfl, hrest⟩ := List.forall_mem_cons.mp htable
    have hrow : ∀ r ∈ s.rows row.table, r.Apart row := fun r hr =>
      (List.pairwise_append.mp h).2.2 r hr row List.mem_cons_self
    obtain ⟨s₁, hs₁, hrows₁⟩ := exists_insertRow hrow
    have hnext : (s₁.rows row.table ++ rest).Pairwise Row.Apart := by
      rwa [hrows₁, if_pos rfl, List.append_assoc, List.singleton_append]
    obtain ⟨s₂, hs₂, hrows₂⟩ := ih hrest hnext
    refine ⟨s₂, Attempt.bind_eq_ok.mpr ⟨s₁, hs₁, hs₂⟩, fun t' => ?_⟩
    rw [hrows₂, hrows₁]
    split
    · rw [List.append_assoc, List.singleton_append]
    · rfl

end Store

end QueryGate
