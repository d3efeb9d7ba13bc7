import QueryGate.Proofs.Attempt
import QueryGate.Seed.Generate

/-!
# What draws ensure

`Draw.Ensures`: unless the draws run out, a computation gives a result with a property, from
whatever state of the supply. The rules follow the ways in which rows are drawn: one draw after the
other, one of several items, and rows for consecutive ids. `Draw.Extends`: where one computation
does not run out, another does the same.
-/

set_option autoImplicit false

namespace QueryGate.Seed

namespace Draw

variable {σ α β : Type}

/-- Unless the draws run out, the computation gives a result with the property. -/
def Ensures (x : Draw σ α) (P : α → Prop) : Prop :=
  ∀ state, (x state).1 = .error .drawLimit ∨ ∃ a, (x state).1 = .ok a ∧ P a

variable {x : Draw σ α} {f : α → Draw σ β} {P Q : α → Prop} {R : β → Prop}

theorem ensures_pure {a : α} (h : P a) : Ensures (pure a : Draw σ α) P :=
  fun _ => .inr ⟨a, rfl, h⟩

theorem ensures_drawLimit : Ensures (throw .drawLimit : Draw σ α) P := fun _ => .inl rfl

theorem Ensures.mono (h : Ensures x P) (hPQ : ∀ a, P a → Q a) : Ensures x Q := fun state =>
  (h state).imp id fun ⟨a, ha, hP⟩ => ⟨a, ha, hPQ a hP⟩

theorem Ensures.bind (h : Ensures x P) (hf : ∀ a, P a → Ensures (f a) R) :
    Ensures (x >>= f) R := by
  intro state
  rcases hx : x state with ⟨e | a, next⟩
  · rcases h state with herror | ⟨_, hok, -⟩
    · rw [hx] at herror
      obtain rfl := Except.error.inj herror
      rw [Attempt.bind_apply_of_error hx]
      exact .inl rfl
    · rw [hx] at hok
      nomatch hok
  · rcases h state with herror | ⟨_, hok, hP⟩
    · rw [hx] at herror
      nomatch herror
    · rw [hx] at hok
      obtain rfl := Except.ok.inj hok
      rw [Attempt.bind_apply_of_ok hx]
      exact hf a hP next

def Succeeds (x : Draw σ α) : Prop := Ensures x fun _ => True

theorem Succeeds.bind (h : Succeeds x) (hf : ∀ a, Ensures (f a) R) : Ensures (x >>= f) R :=
  Ensures.bind h fun a _ => hf a

def Extends (x y : Draw σ α) : Prop :=
  ∀ state, (x state).1 ≠ .error .drawLimit → y state = x state

theorem Extends.refl (x : Draw σ α) : Extends x x := fun _ _ => rfl

theorem extends_drawLimit (y : Draw σ α) : Extends (throw .drawLimit) y :=
  fun _ h => absurd rfl h

theorem Extends.bind {y : Draw σ α} {g : α → Draw σ β} (h : Extends x y)
    (hfg : ∀ a, Extends (f a) (g a)) : Extends (x >>= f) (y >>= g) := by
  intro state hfinish
  rcases hx : x state with ⟨e | a, next⟩
  · rw [Attempt.bind_apply_of_error hx] at hfinish
    have he : e ≠ .drawLimit := fun he => hfinish (congrArg Except.error he)
    have hy : y state = (.error e, next) := by
      rw [h state (by simp [hx, he]), hx]
    rw [Attempt.bind_apply_of_error hx, Attempt.bind_apply_of_error hy]
  · rw [Attempt.bind_apply_of_ok hx] at hfinish
    have hy : y state = (.ok a, next) := by
      rw [h state (by simp [hx]), hx]
    rw [Attempt.bind_apply_of_ok hx, Attempt.bind_apply_of_ok hy]
    exact hfg a next hfinish

end Draw

open Draw

namespace Supply

variable {σ : Type}

/-- The supply with more rounds for its loops. -/
def addRounds (s : Supply σ) (more : Nat) : Supply σ := { s with rounds := s.rounds + more }

/-- A supply that gives what it is asked for: numbers up to the greatest and domains that hold no
`@`, until the draws run out. -/
structure Fair (s : Supply σ) : Prop where
  number : ∀ greatest, Ensures (s.number greatest) (· ≤ greatest)
  threeInTen : Succeeds s.threeInTen
  userName : Succeeds s.userName
  emailDomain : Ensures s.emailDomain fun domain => '@' ∉ domain.toList
  sentence : ∀ words, Succeeds (s.sentence words)
  paragraph : Succeeds s.paragraph
  catchPhrase : Succeeds s.catchPhrase

namespace Fair

variable {s : Supply σ} (hs : s.Fair)
include hs

theorem ensures_pick {α : Type} {items : List α} (hne : items ≠ []) :
    Ensures (s.pick items) (· ∈ items) := by
  cases items with
  | nil => exact absurd rfl hne
  | cons first rest =>
    refine (hs.number rest.length).bind fun i hi => ?_
    have hlt : i < (first :: rest).length := Nat.lt_succ_of_le hi
    rw [List.getElem?_eq_getElem hlt]
    exact ensures_pure (List.getElem_mem hlt)

theorem succeeds_paragraphs (n : Nat) : Succeeds (s.paragraphs n) := by
  induction n with
  | zero => exact ensures_pure trivial
  | succ n ih => exact hs.paragraph.bind fun _ => ih.bind fun _ => ensures_pure trivial

theorem succeeds_timestamp : Succeeds s.timestamp :=
  (hs.number dayRange).bind fun _ _ => (hs.number 23).bind fun _ _ =>
    (hs.number 59).bind fun _ _ => (hs.number 59).bind fun _ _ => ensures_pure trivial

end Fair

end Supply

def idsTo (n : Nat) : List Int := (List.range' 1 n).map Nat.cast

section Rows

variable {σ α : Type} {make : Int → Draw σ α} {key : α → Int} {P : α → Prop}

theorem ensures_rowsFrom (h : ∀ id, Ensures (make id) fun row => key row = id ∧ P row)
    (start count : Nat) : Ensures (rowsFrom make start count) fun rows =>
      rows.map key = (List.range' start count).map Nat.cast ∧ ∀ row ∈ rows, P row := by
  induction count generalizing start with
  | zero => exact ensures_pure ⟨rfl, nofun⟩
  | succ count ih =>
    refine (h start).bind fun row hrow => ?_
    have hrest := ih (start + 1)
    rw [Int.natCast_succ] at hrest
    refine hrest.bind fun rows hrows => ensures_pure ⟨?_, ?_⟩
    · rw [List.map_cons, hrow.1, hrows.1, List.range'_succ, List.map_cons]
    · exact List.forall_mem_cons.mpr ⟨hrow.2, hrows.2⟩

/-- Rows are made for the ids from one on. A row need be possible only where one is asked for. -/
theorem ensures_numbered {count : Nat}
    (h : 0 < count → ∀ id, Ensures (make id) fun row => key row = id ∧ P row) :
    Ensures (numbered make count) fun rows => rows.map key = idsTo count ∧ ∀ row ∈ rows, P row := by
  rcases Nat.eq_zero_or_pos count with rfl | hpos
  · exact ensures_pure ⟨rfl, nofun⟩
  · exact ensures_rowsFrom (h hpos) 1 count

end Rows

namespace Congruential

variable {limit : Nat}

theorem succeeds_draw : Succeeds (draw limit) := by
  intro c
  rw [draw]
  split
  · exact .inl rfl
  · exact .inr ⟨_, rfl, trivial⟩

theorem ensures_below {n : Nat} (hn : 0 < n) : Ensures (below limit n) (· < n) :=
  succeeds_draw.bind fun _ => ensures_pure (Nat.mod_lt _ hn)

theorem succeeds_word (letter : String) (n : Nat) : Succeeds (word limit letter n) :=
  Succeeds.bind (succeeds_draw.bind fun _ => ensures_pure trivial) fun _ => ensures_pure trivial

theorem fair (limit names : Nat) : (Supply.congruential limit names).Fair where
  number greatest := (ensures_below (Nat.succ_pos greatest)).mono fun _ => Nat.le_of_lt_succ
  threeInTen := succeeds_draw.bind fun _ => ensures_pure trivial
  userName := succeeds_word _ _
  emailDomain := by
    have hdomains : ∀ d < 3, '@' ∉ (domains[d]?.getD "").toList := by decide
    exact (ensures_below (by decide)).bind fun d hd => ensures_pure (hdomains d hd)
  sentence _ := (succeeds_word _ _).bind fun _ =>
    (ensures_below (by decide)).bind fun _ _ => ensures_pure trivial
  paragraph := succeeds_word _ _
  catchPhrase := succeeds_word _ _

end Congruential

end QueryGate.Seed
