import Mathlib.Data.List.Forall2
import QueryGate.Failure

/-!
# Attempts in sequence

When a chain of attempts succeeds, and which of its parts a failure comes from.
-/

set_option autoImplicit false

namespace QueryGate.Attempt

variable {α β γ : Type}

theorem ok_bind (a : α) (f : α → Attempt β) : (.ok a : Attempt α) >>= f = f a := rfl

theorem bind_eq_ok {ε : Type} {x : Except ε α} {f : α → Except ε β} {b : β} :
    x >>= f = .ok b ↔ ∃ a, x = .ok a ∧ f a = .ok b := by
  cases x with
  | error e =>
    constructor
    · intro h
      nomatch h
    · rintro ⟨_, h, -⟩
      nomatch h
  | ok a =>
    constructor
    · intro h
      exact ⟨a, rfl, h⟩
    · rintro ⟨_, ha, h⟩
      exact Except.ok.inj ha ▸ h

theorem bind_eq_error {ε : Type} {x : Except ε α} {f : α → Except ε β} {e : ε} :
    x >>= f = .error e ↔ x = .error e ∨ ∃ a, x = .ok a ∧ f a = .error e := by
  cases x with
  | error d =>
    constructor
    · intro h
      exact .inl (congrArg Except.error (Except.error.inj h))
    · rintro (h | ⟨_, h, -⟩)
      · exact congrArg Except.error (Except.error.inj h)
      · nomatch h
  | ok a =>
    constructor
    · intro h
      exact .inr ⟨a, rfl, h⟩
    · rintro (h | ⟨_, ha, h⟩)
      · nomatch h
      · exact Except.ok.inj ha ▸ h

theorem map_eq_ok {x : Attempt α} {f : α → β} {b : β} :
    x.map f = .ok b ↔ ∃ a, x = .ok a ∧ f a = b := by
  cases x with
  | error e => simp [Except.map]
  | ok a => simp [Except.map]

theorem map_eq_error {x : Attempt α} {f : α → β} {e : Failure} :
    x.map f = .error e ↔ x = .error e := by
  cases x with
  | error d => simp [Except.map]
  | ok a => simp [Except.map]

theorem mapError_eq_ok {ε ε' : Type} {x : Except ε α} {f : ε → ε'} {a : α} :
    x.mapError f = .ok a ↔ x = .ok a := by
  cases x with
  | error d => simp [Except.mapError]
  | ok b => simp [Except.mapError]

theorem mapError_eq_error {ε ε' : Type} {x : Except ε α} {f : ε → ε'} {e : ε'} :
    x.mapError f = .error e ↔ ∃ d, x = .error d ∧ f d = e := by
  cases x with
  | error d => simp [Except.mapError]
  | ok b => simp [Except.mapError]

section Stateful

variable {σ ε : Type} {x : ExceptT ε (StateM σ) α} {f : α → ExceptT ε (StateM σ) β} {s s' : σ}

theorem bind_apply_of_ok {a : α} (h : x s = (.ok a, s')) : (x >>= f) s = f a s' := by
  simp only [bind, ExceptT.bind, ExceptT.mk, StateT.bind, ExceptT.bindCont, h]

theorem bind_apply_of_error {e : ε} (h : x s = (.error e, s')) : (x >>= f) s = (.error e, s') := by
  simp only [bind, ExceptT.bind, ExceptT.mk, StateT.bind, ExceptT.bindCont, h]
  rfl

variable {handler : ε → ExceptT ε (StateM σ) α}

theorem tryCatch_apply_of_ok {a : α} (h : x s = (.ok a, s')) :
    (tryCatch x handler) s = (.ok a, s') := by
  simp only [tryCatch, tryCatchThe, MonadExceptOf.tryCatch, ExceptT.tryCatch, ExceptT.mk, bind,
    StateT.bind, h]
  rfl

theorem tryCatch_apply_of_error {e : ε} (h : x s = (.error e, s')) :
    (tryCatch x handler) s = handler e s' := by
  simp only [tryCatch, tryCatchThe, MonadExceptOf.tryCatch, ExceptT.tryCatch, ExceptT.mk, bind,
    StateT.bind, h]

end Stateful

theorem exists_error_of_not_ok {x : Attempt α} (h : ∀ a, x ≠ .ok a) : ∃ e, x = .error e := by
  cases x with
  | error e => exact ⟨e, rfl⟩
  | ok a => exact absurd rfl (h a)

section Pairing

variable {R : α → β → Prop} {S : β → γ → Prop}

theorem exists_forall₂_forall₂ {xs : List α} {zs : List γ} :
    (∃ ys, List.Forall₂ R xs ys ∧ List.Forall₂ S ys zs) ↔
      List.Forall₂ (fun x z => ∃ y, R x y ∧ S y z) xs zs := by
  constructor
  · rintro ⟨ys, hxy, hyz⟩
    induction hxy generalizing zs with
    | nil =>
      cases hyz
      exact .nil
    | cons hx _ ih =>
      cases hyz with
      | cons hy hrest => exact .cons ⟨_, hx, hy⟩ (ih hrest)
  · intro h
    induction h with
    | nil => exact ⟨[], .nil, .nil⟩
    | cons hxz _ ih =>
      obtain ⟨y, hx, hy⟩ := hxz
      obtain ⟨ys, hxs, hys⟩ := ih
      exact ⟨y :: ys, .cons hx hxs, .cons hy hys⟩

theorem exists_forall₂ {xs : List α} :
    (∃ ys, List.Forall₂ R xs ys) ↔ ∀ x ∈ xs, ∃ y, R x y := by
  constructor
  · rintro ⟨ys, h⟩
    induction h with
    | nil => simp
    | cons hxy _ ih => exact List.forall_mem_cons.mpr ⟨⟨_, hxy⟩, ih⟩
  · intro h
    induction xs with
    | nil => exact ⟨[], .nil⟩
    | cons x xs ih =>
      obtain ⟨⟨y, hy⟩, hrest⟩ := List.forall_mem_cons.mp h
      obtain ⟨ys, hys⟩ := ih hrest
      exact ⟨y :: ys, .cons hy hys⟩

/-- Where a member has one partner only, the partners in a pairing are those of its members. -/
theorem mem_iff_of_forall₂ {xs : List α} {ys : List β} (h : List.Forall₂ R xs ys)
    (hunique : ∀ x y y', R x y → R x y' → y = y') {y : β} : y ∈ ys ↔ ∃ x ∈ xs, R x y := by
  induction h with
  | nil => simp
  | @cons x' y' _ _ hxy _ ih =>
    have hpartner : y = y' ↔ R x' y := by
      constructor
      · rintro rfl
        exact hxy
      · intro hx
        exact hunique x' y y' hx hxy
    rw [List.mem_cons, List.exists_mem_cons_iff, ih, hpartner]

theorem exists_of_forall₂_append {xs xs' : List α} {ys : List β}
    (h : List.Forall₂ R (xs ++ xs') ys) :
    ∃ zs zs', List.Forall₂ R xs zs ∧ List.Forall₂ R xs' zs' ∧ ys = zs ++ zs' := by
  induction xs generalizing ys with
  | nil => exact ⟨[], ys, .nil, h, rfl⟩
  | cons x xs ih =>
    cases h with
    | cons hxy hrest =>
      obtain ⟨zs, zs', hzs, hzs', rfl⟩ := ih hrest
      exact ⟨_ :: zs, zs', .cons hxy hzs, hzs', rfl⟩

theorem map_eq_map_of_forall₂ {f : α → γ} {g : β → γ} {xs : List α} {ys : List β}
    (h : List.Forall₂ R xs ys) (heq : ∀ {x y}, R x y → f x = g y) : xs.map f = ys.map g := by
  rw [← List.forall₂_eq_eq_eq, List.forall₂_map_left_iff, List.forall₂_map_right_iff]
  exact h.imp fun _ _ => heq

end Pairing

section Lists

variable {f : α → Attempt β}

theorem mapM_eq_ok {xs : List α} {ys : List β} :
    xs.mapM f = .ok ys ↔ List.Forall₂ (fun x y => f x = .ok y) xs ys := by
  induction xs generalizing ys with
  | nil =>
    rw [List.mapM_nil, List.forall₂_nil_left_iff]
    exact ⟨fun h => (Except.ok.inj h).symm, fun h => h ▸ rfl⟩
  | cons x xs ih =>
    rw [List.mapM_cons, bind_eq_ok, List.forall₂_cons_left_iff]
    refine ⟨?_, ?_⟩
    · rintro ⟨y, hy, h⟩
      obtain ⟨ys', hys, h⟩ := bind_eq_ok.mp h
      exact ⟨y, ys', hy, ih.mp hys, (Except.ok.inj h).symm⟩
    · rintro ⟨y, ys', hy, hys, rfl⟩
      exact ⟨y, hy, bind_eq_ok.mpr ⟨ys', ih.mpr hys, rfl⟩⟩

theorem exists_of_mapM_eq_error {xs : List α} {e : Failure} (h : xs.mapM f = .error e) :
    ∃ x ∈ xs, f x = .error e := by
  induction xs with
  | nil => nomatch h
  | cons x xs ih =>
    rw [List.mapM_cons, bind_eq_error] at h
    rcases h with hx | ⟨y, -, h⟩
    · exact ⟨x, by simp, hx⟩
    · rcases bind_eq_error.mp h with hxs | ⟨ys, -, h⟩
      · obtain ⟨x', hmem, hx'⟩ := ih hxs
        exact ⟨x', List.mem_cons_of_mem _ hmem, hx'⟩
      · nomatch h

theorem exists_mem_of_ok {xs : List α} {ys : List β} (h : xs.mapM f = .ok ys) {y : β}
    (hy : y ∈ ys) : ∃ x ∈ xs, f x = .ok y := by
  have hall := mapM_eq_ok.mp h
  induction hall with
  | nil => simp at hy
  | cons hxy hrest ih =>
    rcases List.mem_cons.mp hy with rfl | htail
    · exact ⟨_, by simp, hxy⟩
    · obtain ⟨x, hx, hf⟩ := ih (mapM_eq_ok.mpr hrest) htail
      exact ⟨x, List.mem_cons_of_mem _ hx, hf⟩

theorem forM_eq_ok {check : α → Attempt Unit} {xs : List α} :
    xs.forM check = .ok () ↔ ∀ x ∈ xs, check x = .ok () := by
  induction xs with
  | nil => exact iff_of_true rfl (List.forall_mem_nil _)
  | cons x xs ih =>
    rw [List.forM, bind_eq_ok, List.forall_mem_cons, ← ih]
    constructor
    · rintro ⟨⟨⟩, hx, hrest⟩
      exact ⟨hx, hrest⟩
    · rintro ⟨hx, hrest⟩
      exact ⟨(), hx, hrest⟩

theorem exists_of_forM_eq_error {check : α → Attempt Unit} {xs : List α} {e : Failure}
    (h : xs.forM check = .error e) : ∃ x ∈ xs, check x = .error e := by
  induction xs with
  | nil => nomatch h
  | cons x xs ih =>
    rw [List.forM, bind_eq_error] at h
    rcases h with hx | ⟨-, -, hrest⟩
    · exact ⟨x, List.mem_cons_self, hx⟩
    · obtain ⟨x', hmem, hx'⟩ := ih hrest
      exact ⟨x', List.mem_cons_of_mem _ hmem, hx'⟩

theorem exists_mapM_mapM {g : β → Attempt γ} {xs : List α} {zs : List γ} :
    (∃ ys, xs.mapM f = .ok ys ∧ ys.mapM g = .ok zs) ↔
      List.Forall₂ (fun x z => ∃ y, f x = .ok y ∧ g y = .ok z) xs zs := by
  simp only [mapM_eq_ok]
  exact exists_forall₂_forall₂

end Lists

end QueryGate.Attempt
