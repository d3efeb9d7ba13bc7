import QueryGate.Proofs.Assoc
import QueryGate.Value.Basic

/-!
# Equality of content among texts

A text has the content of no other value than itself, so that names are compared as texts are.
-/

set_option autoImplicit false

namespace QueryGate.Value

theorem text?_eq_some {v : Value} {s : String} : v.text? = some s ↔ v = .text s := by
  cases v <;> simp [text?]

@[simp] theorem same_text {v : Value} {s : String} : v.same (.text s) = true ↔ v = .text s := by
  cases v <;> simp [same]

@[simp] theorem text_same {v : Value} {s : String} :
    (Value.text s).same v = true ↔ v = .text s := by
  cases v with
  | text t =>
    simp only [same, beq_iff_eq, Value.text.injEq]
    exact eq_comm
  | _ => simp [same]

theorem beq_text {v : Value} {s : String} : (v == .text s) = true ↔ v = .text s := same_text

theorem any_same_text {vs : List Value} {s : String} :
    vs.any (·.same (.text s)) = true ↔ Value.text s ∈ vs := by
  simp

theorem mem_of_get?_text {α : Type} {s : String} {a : α} {pairs : List (Value × α)}
    (h : Assoc.get? (Value.text s) pairs = some a) : (Value.text s, a) ∈ pairs := by
  induction pairs with
  | nil => cases h
  | cons p rest ih =>
    rw [Assoc.get?_cons] at h
    split at h
    · rename_i hp
      cases h
      exact beq_text.mp hp ▸ List.mem_cons_self
    · exact List.mem_cons_of_mem _ (ih h)

theorem get?_text_of_mem {α : Type} {s : String} {a : α} {pairs : List (Value × α)}
    (hkeys : (Assoc.keys pairs).Pairwise fun k k' => (k == k') = false)
    (h : (Value.text s, a) ∈ pairs) : Assoc.get? (Value.text s) pairs = some a := by
  induction pairs with
  | nil => nomatch h
  | cons p rest ih =>
    rw [Assoc.keys_cons, List.pairwise_cons] at hkeys
    rw [Assoc.get?_cons]
    rcases List.mem_cons.mp h with rfl | hrest
    · exact if_pos (beq_text.mpr rfl)
    · rw [hkeys.1 _ (Assoc.mem_keys hrest), if_neg Bool.false_ne_true]
      exact ih hkeys.2 hrest

theorem isSome_get?_text {α : Type} {s : String} {pairs : List (Value × α)} :
    (Assoc.get? (Value.text s) pairs).isSome ↔ Value.text s ∈ Assoc.keys pairs := by
  induction pairs with
  | nil => simp
  | cons p rest ih =>
    rw [Assoc.get?_cons, Assoc.keys_cons, List.mem_cons]
    by_cases hp : (p.1 == Value.text s) = true
    · rw [if_pos hp]
      exact ⟨fun _ => .inl (beq_text.mp hp).symm, fun _ => rfl⟩
    · rw [if_neg hp, ih]
      refine ⟨.inr, ?_⟩
      rintro (hhead | hrest)
      · exact absurd (beq_text.mpr hhead.symm) hp
      · exact hrest

end Value

end QueryGate
