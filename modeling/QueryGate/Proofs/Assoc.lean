import Mathlib.Data.List.Induction
import Mathlib.Data.List.Nodup
import QueryGate.Assoc

/-!
# Look-up in ordered association lists

What `Assoc.adjust` does to look-up and to the keys, how look-up and membership agree when no key
is there twice, and where the pairs of `Assoc.ofPairs` come from.
-/

set_option autoImplicit false

namespace QueryGate.Assoc

variable {κ α : Type}

theorem mem_keys {p : κ × α} {pairs : List (κ × α)} (h : p ∈ pairs) : p.1 ∈ keys pairs :=
  List.mem_map.mpr ⟨p, h, rfl⟩

@[simp] theorem keys_nil : keys ([] : List (κ × α)) = [] := rfl

@[simp] theorem keys_cons (p : κ × α) (rest : List (κ × α)) :
    keys (p :: rest) = p.1 :: keys rest := rfl

section Values

variable [BEq κ]

theorem exists_mem_of_get? {key : κ} {v : α} {pairs : List (κ × α)} (h : get? key pairs = some v) :
    ∃ k, (k, v) ∈ pairs := by
  induction pairs with
  | nil => nomatch h
  | cons p rest ih =>
    rw [get?_cons] at h
    split at h
    · cases h
      exact ⟨p.1, by simp⟩
    · obtain ⟨k, hk⟩ := ih h
      exact ⟨k, List.mem_cons_of_mem _ hk⟩

theorem get?_append (key : κ) (xs ys : List (κ × α)) :
    get? key (xs ++ ys) = (get? key xs).or (get? key ys) := by
  induction xs with
  | nil => rfl
  | cons p rest ih =>
    rw [List.cons_append, get?_cons, get?_cons, ih]
    split <;> rfl

/-- A test that pairs pass survives `put` where it may be carried over to an equal key. -/
theorem forall_put {P : κ → α → Prop}
    (hkeys : ∀ {k u k' v}, P k u → P k' v → (k == k') = true → P k v) {key : κ} {value : α}
    (hnew : P key value) {pairs : List (κ × α)} (h : ∀ p ∈ pairs, P p.1 p.2) :
    ∀ p ∈ put key value pairs, P p.1 p.2 := by
  induction pairs with
  | nil =>
    intro p hp
    obtain rfl := List.mem_singleton.mp hp
    exact hnew
  | cons q rest ih =>
    obtain ⟨hq, hrest⟩ := List.forall_mem_cons.mp h
    rw [put]
    split
    · rename_i hkey
      exact List.forall_mem_cons.mpr ⟨hkeys hq hnew hkey, hrest⟩
    · exact List.forall_mem_cons.mpr ⟨hq, ih hrest⟩

theorem ofPairs_append (pairs : List (κ × α)) (p : κ × α) :
    ofPairs (pairs ++ [p]) = put p.1 p.2 (ofPairs pairs) := by
  rw [ofPairs, List.foldl_append]
  rfl

/-- A test that all pairs pass is passed by those of `ofPairs`, where it may be carried over to an
equal key. -/
theorem forall_ofPairs {P : κ → α → Prop}
    (hkeys : ∀ {k u k' v}, P k u → P k' v → (k == k') = true → P k v) {pairs : List (κ × α)}
    (h : ∀ p ∈ pairs, P p.1 p.2) : ∀ p ∈ ofPairs pairs, P p.1 p.2 := by
  -- from the right, where the last pair is put to the others
  induction pairs using List.reverseRecOn with
  | nil => exact fun _ hp => nomatch hp
  | append_singleton pairs last ih =>
    obtain ⟨hpairs, hlast⟩ := List.forall_mem_append.mp h
    rw [ofPairs_append]
    have hnew : P last.1 last.2 := hlast last (List.mem_singleton_self _)
    exact forall_put (P := P) hkeys hnew (ih hpairs)

theorem mem_ofPairs {p : κ × α} {pairs : List (κ × α)} (h : p ∈ ofPairs pairs) :
    p.1 ∈ keys pairs ∧ ∃ k, (k, p.2) ∈ pairs := by
  have hall : ∀ p ∈ pairs, p.1 ∈ keys pairs ∧ ∃ k, (k, p.2) ∈ pairs :=
    fun p hp => ⟨mem_keys hp, p.1, hp⟩
  exact forall_ofPairs (P := fun k v => k ∈ keys pairs ∧ ∃ k, (k, v) ∈ pairs)
    (fun hk hv _ => ⟨hk.1, hv.2⟩) hall p h

theorem keys_put (key : κ) (value : α) (pairs : List (κ × α)) :
    keys (put key value pairs) =
      if (get? key pairs).isSome then keys pairs else keys pairs ++ [key] := by
  induction pairs with
  | nil => simp [put]
  | cons p rest ih =>
    obtain ⟨k, u⟩ := p
    cases hk : k == key with
    | true => simp [put, get?_cons, hk]
    | false =>
      simp only [put, get?_cons, hk, Bool.false_eq_true, if_false, keys_cons, ih]
      split <;> rfl

theorem beq_eq_false_of_get?_eq_none {key k : κ} {pairs : List (κ × α)}
    (h : get? key pairs = none) (hk : k ∈ keys pairs) : (k == key) = false := by
  induction pairs with
  | nil => nomatch hk
  | cons p rest ih =>
    rw [get?_cons] at h
    split at h
    · nomatch h
    · rename_i hne
      rcases List.mem_cons.mp hk with rfl | hrest
      · simpa using hne
      · exact ih h hrest

theorem pairwise_keys_ofPairs (pairs : List (κ × α)) :
    (keys (ofPairs pairs)).Pairwise fun a b => (a == b) = false := by
  have step : ∀ (key : κ) (value : α) (acc : List (κ × α)),
      (keys acc).Pairwise (fun a b => (a == b) = false) →
      (keys (put key value acc)).Pairwise fun a b => (a == b) = false := by
    intro key value acc hacc
    rw [keys_put]
    split
    · exact hacc
    · rename_i hnone
      have hget : get? key acc = none := by simpa using hnone
      refine List.pairwise_append.mpr ⟨hacc, List.pairwise_singleton _ _, ?_⟩
      intro a ha b hb
      rw [List.mem_singleton.mp hb]
      exact beq_eq_false_of_get?_eq_none hget ha
  have run : ∀ (rest acc : List (κ × α)),
      (keys acc).Pairwise (fun a b => (a == b) = false) →
      (keys (rest.foldl (fun acc p => put p.1 p.2 acc) acc)).Pairwise
        fun a b => (a == b) = false := by
    intro rest
    induction rest with
    | nil => exact fun _ hacc => hacc
    | cons r rest ih => exact fun acc hacc => ih _ (step r.1 r.2 acc hacc)
  exact run pairs [] List.Pairwise.nil

theorem put_of_forall_ne {key : κ} (value : α) {pairs : List (κ × α)}
    (h : ∀ k ∈ keys pairs, (k == key) = false) : put key value pairs = pairs ++ [(key, value)] := by
  induction pairs with
  | nil => rfl
  | cons p rest ih =>
    obtain ⟨hp, hrest⟩ := List.forall_mem_cons.mp h
    rw [put, hp, if_neg Bool.false_ne_true, ih hrest, List.cons_append]

theorem ofPairs_of_pairwise {pairs : List (κ × α)}
    (h : (keys pairs).Pairwise fun a b => (a == b) = false) : ofPairs pairs = pairs := by
  induction pairs using List.reverseRecOn with
  | nil => rfl
  | append_singleton pairs p ih =>
    have hsplit : keys (pairs ++ [p]) = keys pairs ++ [p.1] := List.map_append
    rw [hsplit, List.pairwise_append] at h
    obtain ⟨hfront, -, hlast⟩ := h
    rw [ofPairs_append, ih hfront,
      put_of_forall_ne p.2 fun k hk => hlast k hk _ (List.mem_singleton_self _)]

theorem flatMap_adjust_perm {β : Type} (parts : α → List β) {key : κ} {start : α}
    {change : α → α} {gain : List β}
    (hchange : ∀ v, (parts (change v)).Perm (parts v ++ gain)) (hstart : parts start = [])
    (pairs : List (κ × α)) :
    ((adjust key start change pairs).flatMap fun p => parts p.2).Perm
      ((pairs.flatMap fun p => parts p.2) ++ gain) := by
  induction pairs with
  | nil =>
    have hnew := hchange start
    rw [hstart] at hnew
    simpa [adjust] using hnew
  | cons p rest ih =>
    rw [adjust]
    split
    · have hfront : (parts (change p.2) ++ rest.flatMap fun p => parts p.2).Perm
          (parts p.2 ++ gain ++ rest.flatMap fun p => parts p.2) :=
        (hchange p.2).append_right _
      have hback : (parts p.2 ++ gain ++ rest.flatMap fun p => parts p.2).Perm
          (parts p.2 ++ ((rest.flatMap fun p => parts p.2) ++ gain)) := by
        rw [List.append_assoc]
        exact List.perm_append_comm.append_left _
      simpa using hfront.trans hback
    · simpa using ih.append_left (parts p.2)

end Values

variable [BEq κ] [LawfulBEq κ]

theorem eraseDups_append_singleton (ks : List κ) (key : κ) :
    (ks ++ [key]).eraseDups = if key ∈ ks then ks.eraseDups else ks.eraseDups ++ [key] := by
  rw [List.eraseDups_append]
  split
  · rename_i hkey
    have hrest : [key].removeAll ks = [] := by simpa [List.removeAll] using hkey
    rw [hrest, List.eraseDups_nil, List.append_nil]
  · rename_i hkey
    have hrest : [key].removeAll ks = [key] := by simpa [List.removeAll] using hkey
    rw [hrest]
    rfl

theorem nodup_eraseDups (ks : List κ) : ks.eraseDups.Nodup := by
  induction ks using List.reverseRecOn with
  | nil => exact List.nodup_nil
  | append_singleton ks key ih =>
    rw [eraseDups_append_singleton]
    split
    · exact ih
    · rename_i hkey
      rw [← List.concat_eq_append]
      exact ih.concat (mt List.mem_eraseDups.mp hkey)

theorem mem_of_get? {key : κ} {v : α} {pairs : List (κ × α)} (h : get? key pairs = some v) :
    (key, v) ∈ pairs := by
  induction pairs with
  | nil => simp at h
  | cons p rest ih =>
    obtain ⟨k, u⟩ := p
    rw [get?_cons] at h
    split at h
    · rename_i hk
      have hkey : k = key := eq_of_beq hk
      have hv : u = v := Option.some.inj h
      simp [hkey, hv]
    · exact List.mem_cons_of_mem _ (ih h)

theorem get?_eq_none {key : κ} {pairs : List (κ × α)} :
    get? key pairs = none ↔ key ∉ keys pairs := by
  induction pairs with
  | nil => simp
  | cons p rest ih =>
    obtain ⟨k, u⟩ := p
    rw [get?_cons]
    by_cases hk : k = key
    · simp [hk]
    · simp [hk, Ne.symm hk, ih]

theorem isSome_get? {key : κ} {pairs : List (κ × α)} :
    (get? key pairs).isSome ↔ key ∈ keys pairs := by
  rw [← not_iff_not, ← get?_eq_none]
  simp

theorem get?_of_mem {key : κ} {v : α} {pairs : List (κ × α)} (hnodup : (keys pairs).Nodup)
    (h : (key, v) ∈ pairs) : get? key pairs = some v := by
  induction pairs with
  | nil => simp at h
  | cons p rest ih =>
    obtain ⟨k, u⟩ := p
    rw [keys_cons, List.nodup_cons] at hnodup
    rw [get?_cons]
    rcases List.mem_cons.mp h with hhead | htail
    · obtain ⟨rfl, rfl⟩ := Prod.mk.inj hhead
      simp
    · have hmem : key ∈ keys rest := mem_keys htail
      have hne : k ≠ key := by
        rintro rfl
        exact hnodup.1 hmem
      simpa [hne] using ih hnodup.2 htail

theorem ofPairs_of_nodup {pairs : List (κ × α)} (h : (keys pairs).Nodup) :
    ofPairs pairs = pairs :=
  ofPairs_of_pairwise (h.imp fun hne => beq_eq_false_iff_ne.mpr hne)

theorem get?_map_pair (f : κ → α) (key : κ) (ks : List κ) :
    get? key (ks.map fun k => (k, f k)) = if key ∈ ks then some (f key) else none := by
  induction ks with
  | nil => simp
  | cons k ks ih =>
    rw [List.map_cons, get?_cons, ih]
    by_cases hk : k = key
    · simp [hk]
    · simp [hk, Ne.symm hk]

section Adjust

variable (key : κ) (start : α) (change : α → α)

theorem get?_adjust (k : κ) (pairs : List (κ × α)) :
    get? k (adjust key start change pairs) =
      if k == key then some (change ((get? key pairs).getD start)) else get? k pairs := by
  induction pairs with
  | nil =>
    by_cases hk : k = key
    · simp [adjust, get?_cons, hk]
    · simp [adjust, get?_cons, hk, Ne.symm hk]
  | cons p rest ih =>
    obtain ⟨k', u⟩ := p
    by_cases hp : k' = key
    · subst hp
      by_cases hk : k = k'
      · simp [adjust, get?_cons, hk]
      · simp [adjust, get?_cons, hk, Ne.symm hk]
    · by_cases hk : k' = k
      · subst hk
        simp [adjust, get?_cons, hp]
      · simp [adjust, get?_cons, hp, hk, ih]

theorem keys_adjust (pairs : List (κ × α)) :
    keys (adjust key start change pairs) =
      if (get? key pairs).isSome then keys pairs else keys pairs ++ [key] := by
  induction pairs with
  | nil => simp [adjust]
  | cons p rest ih =>
    obtain ⟨k, u⟩ := p
    by_cases hk : k = key
    · simp [adjust, get?_cons, hk]
    · simp only [adjust, get?_cons, beq_iff_eq, hk, if_false, keys_cons, ih]
      split <;> simp

theorem nodup_keys_adjust {pairs : List (κ × α)} (h : (keys pairs).Nodup) :
    (keys (adjust key start change pairs)).Nodup := by
  rw [keys_adjust]
  split
  · exact h
  · rename_i hnone
    have hkey : key ∉ keys pairs := get?_eq_none.mp (by simpa using hnone)
    exact List.nodup_append.mpr ⟨h, by simp, by
      intro a ha b hb
      rw [List.mem_singleton.mp hb]
      rintro rfl
      exact hkey ha⟩

theorem keys_adjust_eraseDups {ks : List κ} {pairs : List (κ × α)}
    (h : keys pairs = ks.eraseDups) :
    keys (adjust key start change pairs) = (ks ++ [key]).eraseDups := by
  have hmem : (get? key pairs).isSome ↔ key ∈ ks := by
    rw [isSome_get?, h, List.mem_eraseDups]
  rw [keys_adjust, eraseDups_append_singleton, h]
  exact if_congr hmem rfl rfl

theorem mem_adjust {p : κ × α} {pairs : List (κ × α)} (h : p ∈ adjust key start change pairs) :
    p ∈ pairs ∨ p = (key, change start) ∨ ∃ u, (key, u) ∈ pairs ∧ p = (key, change u) := by
  induction pairs with
  | nil => exact .inr (.inl (by simpa [adjust] using h))
  | cons q rest ih =>
    obtain ⟨k, u⟩ := q
    rw [adjust] at h
    split at h
    · rename_i hk
      have hkey : k = key := eq_of_beq hk
      subst hkey
      rcases List.mem_cons.mp h with rfl | htail
      · exact .inr (.inr ⟨u, by simp, rfl⟩)
      · exact .inl (List.mem_cons_of_mem _ htail)
    · rcases List.mem_cons.mp h with rfl | htail
      · exact .inl (by simp)
      · rcases ih htail with hmem | hnew | ⟨x, hx, rfl⟩
        · exact .inl (List.mem_cons_of_mem _ hmem)
        · exact .inr (.inl hnew)
        · exact .inr (.inr ⟨x, List.mem_cons_of_mem _ hx, rfl⟩)

end Adjust

end QueryGate.Assoc
