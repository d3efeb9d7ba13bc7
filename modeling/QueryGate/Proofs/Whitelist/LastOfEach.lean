import QueryGate.Proofs.Value.Same

/-!
# The last of each name

An association list that is made from named members keeps of those with equal names the last, at
the place of the first. Main statements: `ofPairs_underName`, and `get?_underName` for look-up.
-/

set_option autoImplicit false

namespace QueryGate

variable {α β : Type} (name : α → String)

def lastNamed? (xs : List α) (n : String) : Option α := xs.reverse.find? (name · = n)

/-- Of the members with equal names the last, in the order in which the names first come. -/
def lastOfEach (xs : List α) : List α :=
  (xs.map name).eraseDups.filterMap (lastNamed? name xs)

variable {name} {xs : List α} {n : String}

theorem lastNamed?_append (x : α) :
    lastNamed? name (xs ++ [x]) n = if name x = n then some x else lastNamed? name xs n := by
  rw [lastNamed?, List.reverse_append, List.reverse_singleton, List.singleton_append,
    List.find?_cons]
  by_cases hx : name x = n
  · simp [hx]
  · simp [hx, lastNamed?]

theorem name_of_lastNamed? {x : α} (h : lastNamed? name xs n = some x) : name x = n := by
  simpa using List.find?_some h

theorem exists_lastNamed? (h : n ∈ xs.map name) : ∃ x, lastNamed? name xs n = some x := by
  rw [← Option.isSome_iff_exists, lastNamed?, List.find?_isSome]
  obtain ⟨x, hx, rfl⟩ := List.mem_map.mp h
  exact ⟨x, List.mem_reverse.mpr hx, decide_eq_true rfl⟩

theorem mem_names_of_lastNamed? {x : α} (h : lastNamed? name xs n = some x) : n ∈ xs.map name := by
  have hx := List.mem_reverse.mp (List.mem_of_find?_eq_some h)
  exact List.mem_map.mpr ⟨x, hx, name_of_lastNamed? h⟩

theorem mem_lastOfEach {x : α} : x ∈ lastOfEach name xs ↔ lastNamed? name xs (name x) = some x := by
  rw [lastOfEach, List.mem_filterMap]
  constructor
  · rintro ⟨n, -, hn⟩
    rwa [name_of_lastNamed? hn]
  · intro h
    exact ⟨name x, List.mem_eraseDups.mpr (mem_names_of_lastNamed? h), h⟩

theorem map_name_lastOfEach : (lastOfEach name xs).map name = (xs.map name).eraseDups := by
  rw [lastOfEach, List.map_filterMap]
  refine (List.filterMap_congr ?_).trans List.filterMap_some
  intro n hn
  obtain ⟨x, hx⟩ := exists_lastNamed? (List.mem_eraseDups.mp hn)
  rw [hx, Option.map_some, name_of_lastNamed? hx]

/-- A member that is added takes the place of the one with its name, or else comes last. -/
theorem lastOfEach_append (x : α) : lastOfEach name (xs ++ [x]) =
    if name x ∈ xs.map name then (lastOfEach name xs).map fun y => if name y = name x then x else y
    else lastOfEach name xs ++ [x] := by
  unfold lastOfEach
  rw [List.map_append, List.map_singleton, Assoc.eraseDups_append_singleton]
  split
  · rw [List.map_filterMap]
    refine List.filterMap_congr ?_
    intro n hn
    obtain ⟨y, hy⟩ := exists_lastNamed? (List.mem_eraseDups.mp hn)
    rw [lastNamed?_append, hy, Option.map_some, name_of_lastNamed? hy]
    by_cases hx : name x = n
    · rw [if_pos hx, if_pos hx.symm]
    · rw [if_neg hx, if_neg (Ne.symm hx)]
  · rename_i hnew
    have hlast : lastNamed? name (xs ++ [x]) (name x) = some x := by
      rw [lastNamed?_append, if_pos rfl]
    have hfront : (xs.map name).eraseDups.filterMap (lastNamed? name (xs ++ [x])) =
        (xs.map name).eraseDups.filterMap (lastNamed? name xs) := by
      refine List.filterMap_congr ?_
      intro n hn
      rw [lastNamed?_append, if_neg]
      rintro rfl
      exact hnew (List.mem_eraseDups.mp hn)
    rw [List.filterMap_append, hfront, List.filterMap_cons_some hlast, List.filterMap_nil]

def underName (name : α → String) (content : α → β) (x : α) : Value × β :=
  (.text (name x), content x)

theorem put_underName {content : α → β} (x : α) {ys : List α} (hys : (ys.map name).Nodup) :
    Assoc.put (.text (name x)) (content x) (ys.map (underName name content)) =
      if name x ∈ ys.map name then
        (ys.map fun y => if name y = name x then x else y).map (underName name content)
      else ys.map (underName name content) ++ [underName name content x] := by
  induction ys with
  | nil => rfl
  | cons y ys ih =>
    rw [List.map_cons, List.nodup_cons] at hys
    have hmem : name x ∈ (y :: ys).map name ↔ name x = name y ∨ name x ∈ ys.map name := by
      rw [List.map_cons, List.mem_cons]
    rw [List.map_cons, underName, Assoc.put]
    by_cases hy : name y = name x
    · -- The name is replaced here, and nowhere behind it.
      have hrest : (ys.map fun y => if name y = name x then x else y) = ys := by
        refine (List.map_congr_left ?_).trans (List.map_id ys)
        intro z hz
        refine if_neg ?_
        intro hzx
        exact hys.1 (hy ▸ hzx ▸ List.mem_map_of_mem hz)
      rw [if_pos (Value.beq_text.mpr (congrArg Value.text hy)), if_pos (hmem.mpr (.inl hy.symm)),
        List.map_cons, if_pos hy, hrest, List.map_cons, underName, hy]
    · have hkey : ¬(Value.text (name y) == Value.text (name x)) = true := by
        rw [Value.beq_text, Value.text.injEq]
        exact hy
      rw [if_neg hkey, ih hys.2]
      by_cases hx : name x ∈ ys.map name
      · rw [if_pos hx, if_pos (hmem.mpr (.inr hx)), List.map_cons, if_neg hy]
        rfl
      · have hnew : ¬name x ∈ (y :: ys).map name := by
          rw [hmem, not_or]
          exact ⟨Ne.symm hy, hx⟩
        rw [if_neg hx, if_neg hnew]
        rfl

theorem ofPairs_underName (content : α → β) :
    Assoc.ofPairs (xs.map (underName name content)) =
      (lastOfEach name xs).map (underName name content) := by
  induction xs using List.reverseRecOn with
  | nil => rfl
  | append_singleton xs x ih =>
    have hmem : name x ∈ (lastOfEach name xs).map name ↔ name x ∈ xs.map name := by
      rw [map_name_lastOfEach, List.mem_eraseDups]
    have hnodup : ((lastOfEach name xs).map name).Nodup := by
      rw [map_name_lastOfEach]
      exact Assoc.nodup_eraseDups _
    rw [List.map_append, List.map_singleton, Assoc.ofPairs_append, ih, lastOfEach_append, underName,
      put_underName x hnodup]
    by_cases hx : name x ∈ xs.map name
    · rw [if_pos (hmem.mpr hx), if_pos hx]
    · rw [if_neg (mt hmem.mp hx), if_neg hx, List.map_append, List.map_singleton]

theorem get?_underName (content : α → β) :
    Assoc.get? (.text n) ((lastOfEach name xs).map (underName name content)) =
      (lastNamed? name xs n).map content := by
  cases hlast : lastNamed? name xs n with
  | some x =>
    have hx : x ∈ lastOfEach name xs := mem_lastOfEach.mpr (name_of_lastNamed? hlast ▸ hlast)
    refine Value.get?_text_of_mem ?_ ?_
    · rw [← ofPairs_underName]
      exact Assoc.pairwise_keys_ofPairs _
    · exact List.mem_map.mpr ⟨x, hx, by rw [underName, name_of_lastNamed? hlast]⟩
  | none =>
    rw [Option.map_none, ← Option.not_isSome_iff_eq_none, Value.isSome_get?_text, Assoc.keys,
      List.map_map]
    intro h
    obtain ⟨x, hx, heq⟩ := List.mem_map.mp h
    have hname : name x = n := Value.text.inj heq
    rw [← hname, mem_lastOfEach.mp hx] at hlast
    nomatch hlast

end QueryGate
