import QueryGate.Proofs.Attempt
import QueryGate.Store.Bind

/-!
# Which values the store takes

`Value.isBindable` decides whether a value can be handed over to the store, `Value.isMember`
whether it can be a member of a list there. Each conversion that the store makes before comes with
the class of values that it is made for (`Value.Converts`); its failures are internal.
-/

set_option autoImplicit false

namespace QueryGate

def Failure.isInternal : Failure → Bool
  | .query _ | .store _ => false
  | _ => true

/-- The kind of column that holds the cell. -/
def Cell.kind : Cell → ColumnKind
  | .int _ => .integer
  | .text _ => .text
  | .moment _ => .moment

namespace Value

def isBindable : Value → Bool
  | .int n => fits64 n
  | .list _ | .object _ => false
  | _ => true

def isComparable : Value → Bool
  | .null | .bool _ => false
  | v => v.isBindable

def parameter : Value → Scalar
  | .bool b => .int b.toNat
  | .int n => .int n
  | .float x => if x = .nan then .null else .real x
  | .text s => .text s
  | .moment t => .text (Value.shown (.moment t))
  | .day d => .text d.isoText
  | .null | .list _ | .object _ => .null

def isTruth (v : Value) : Bool := v.isNull || v.same (.bool true) || v.same (.bool false)

def hasFloat : Value → Bool
  | .null | .bool _ | .float _ => true
  | .int n =>
    match Binary64.ofInt n with
    | .infinite _ => false
    | _ => true
  | .text s => (Binary64.read? s.toList).isSome
  | _ => false

def isTime : Value → Bool
  | .null | .moment _ | .day _ => true
  | _ => false

def isMember (kind : ColumnKind) (first v : Value) : Bool :=
  match first with
  | .bool _ => v.isTruth
  | .float _ => v.hasFloat
  | .moment _ | .day _ => v.isTime
  | .text _ | .int _ => v.isBindable
  | .null | .list _ | .object _ => if kind = .moment then v.isTime else v.isBindable

def memberParameter (kind : ColumnKind) (first v : Value) : Scalar :=
  match memberConversion kind first v with
  | .ok u => u.parameter
  | .error _ => .null

theorem toScalar_eq_ok {v : Value} (h : v.isBindable) : v.toScalar = .ok v.parameter := by
  cases v with
  | int n => exact if_pos h
  | list _ => nomatch h
  | object _ => nomatch h
  | _ => rfl

theorem isBindable_of_toScalar {v : Value} {x : Scalar} (h : v.toScalar = .ok x) :
    v.isBindable := by
  cases v with
  | int n =>
    rw [toScalar] at h
    split at h
    · assumption
    · nomatch h
  | list _ => nomatch h
  | object _ => nomatch h
  | _ => rfl

theorem isInternal_of_toScalar {v : Value} {e : Failure} (h : v.toScalar = .error e) :
    e.isInternal := by
  cases v with
  | int n =>
    rw [toScalar] at h
    split at h
    · nomatch h
    · cases h
      rfl
  | list _ => cases h; rfl
  | object _ => cases h; rfl
  | _ => nomatch h

/-- A conversion that succeeds for one class of values, with values that can be handed over. -/
structure Converts (accepts : Value → Bool) (conversion : Value → Attempt Value) : Prop where
  ok : ∀ {v}, accepts v → ∃ u, conversion v = .ok u ∧ u.isBindable
  accepted : ∀ {v u}, conversion v = .ok u → u.isBindable → accepts v
  error : ∀ {v e}, conversion v = .error e → e.isInternal

theorem converts_ok : Converts isBindable .ok where
  ok h := ⟨_, rfl, h⟩
  accepted h hu := Except.ok.inj h ▸ hu
  error h := nomatch h

theorem converts_toTruth : Converts isTruth toTruth where
  ok {v} h := by
    unfold toTruth
    split
    · exact ⟨_, rfl, rfl⟩
    · split
      · exact ⟨_, rfl, rfl⟩
      · split
        · exact ⟨_, rfl, rfl⟩
        · simp_all [isTruth]
  accepted {v u} h _ := by
    unfold toTruth at h
    unfold isTruth
    split at h
    · simp_all
    · split at h
      · simp_all
      · split at h
        · simp_all
        · nomatch h
  error {v e} h := by
    unfold toTruth at h
    split at h
    · nomatch h
    · split at h
      · nomatch h
      · split at h
        · nomatch h
        · cases h
          rfl

theorem converts_toFloat : Converts hasFloat toFloat where
  ok {v} h := by
    cases v with
    | int n =>
      dsimp only [hasFloat, toFloat] at h ⊢
      split
      · simp_all
      · exact ⟨_, rfl, rfl⟩
    | text s =>
      obtain ⟨x, hx⟩ := Option.isSome_iff_exists.mp h
      exact ⟨.float x, by simp [toFloat, hx], rfl⟩
    | null => exact ⟨_, rfl, rfl⟩
    | bool b => exact ⟨_, rfl, rfl⟩
    | float x => exact ⟨_, rfl, rfl⟩
    | _ => nomatch h
  accepted {v u} h _ := by
    cases v with
    | int n =>
      cases hfloat : Binary64.ofInt n with
      | infinite negative => simp [toFloat, hfloat] at h
      | nan => simp [hasFloat, hfloat]
      | finite negative mantissa exponent => simp [hasFloat, hfloat]
    | text s =>
      dsimp only [hasFloat, toFloat] at h ⊢
      split at h
      · simp_all
      · nomatch h
    | null | bool _ | float _ => rfl
    | _ => nomatch h
  error {v e} h := by
    cases v with
    | int n =>
      dsimp only [toFloat] at h
      split at h
      · cases h
        rfl
      · nomatch h
    | text s =>
      dsimp only [toFloat] at h
      split at h
      · nomatch h
      · cases h
        rfl
    | null | bool _ | float _ => nomatch h
    | _ =>
      cases h
      rfl

theorem converts_toMoment : Converts isTime toMoment where
  ok {v} h := by
    cases v with
    | null | moment _ | day _ => exact ⟨_, rfl, rfl⟩
    | _ => nomatch h
  accepted {v u} h _ := by
    cases v with
    | null | moment _ | day _ => rfl
    | _ => nomatch h
  error {v e} h := by
    cases v with
    | null | moment _ | day _ => nomatch h
    | _ =>
      cases h
      rfl

theorem converts_toDay : Converts isTime toDay where
  ok {v} h := by
    cases v with
    | null | moment _ | day _ => exact ⟨_, rfl, rfl⟩
    | _ => nomatch h
  accepted {v u} h _ := by
    cases v with
    | null | moment _ | day _ => rfl
    | _ => nomatch h
  error {v e} h := by
    cases v with
    | null | moment _ | day _ => nomatch h
    | _ =>
      cases h
      rfl

theorem converts_memberConversion (kind : ColumnKind) (first : Value) :
    Converts (isMember kind first) (memberConversion kind first) := by
  cases first with
  | bool _ => exact converts_toTruth
  | float _ => exact converts_toFloat
  | moment _ => exact converts_toMoment
  | day _ => exact converts_toDay
  | text _ | int _ => exact converts_ok
  | null | list _ | object _ =>
    cases kind with
    | moment => exact converts_toMoment
    | integer | text => exact converts_ok

theorem converts_convertFor (kind : ColumnKind) : Converts isBindable (convertFor kind) where
  ok {v} h := by
    cases v with
    | list _ | object _ => nomatch h
    | moment _ | day _ => cases kind <;> exact ⟨_, rfl, rfl⟩
    | _ => cases kind <;> exact ⟨_, rfl, h⟩
  accepted {v u} h hu := by
    cases v with
    | int n => cases kind <;> cases h <;> exact hu
    | list _ | object _ => cases kind <;> cases h <;> exact hu
    | _ => rfl
  error {v e} h := by
    cases v <;> cases kind <;> cases h <;> rfl

theorem convertFor_eq_ok {kind : ColumnKind} {v : Value} (h : v.isBindable) :
    v.convertFor kind = .ok v.momentText := by
  cases v with
  | list _ | object _ => nomatch h
  | _ => cases kind <;> rfl

end Value

end QueryGate
