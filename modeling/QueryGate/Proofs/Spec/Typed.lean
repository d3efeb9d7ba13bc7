import QueryGate.Spec.Typed

/-!
# Specs written out and read again

A spec with a positive limit is read back from its own object, so that typed reading complains
about none that the validator built. Main statement: `Spec.ofObject_toObject`.
-/

set_option autoImplicit false

namespace QueryGate

theorem Checked.items_map {α : Type} {read : Value → Checked α} {shown : α → Value}
    (hread : ∀ x, read (shown x) = .ok x) (xs : List α) (first : Nat) :
    Checked.items read first (xs.map shown) = .ok xs := by
  induction xs generalizing first with
  | nil => rfl
  | cons x xs ih =>
    rw [List.map_cons, Checked.items, hread, ih]
    rfl

theorem readList_map {α : Type} {read : Value → Checked α} {shown : α → Value}
    (hread : ∀ x, read (shown x) = .ok x) (xs : List α) :
    readList read (.list (xs.map shown)) = .ok xs :=
  Checked.items_map hread xs 0

theorem typedMember_of_member? {α : Type} {v x : Value} {key : String} {missing : Checked α}
    {read : Value → Checked α} {a : α} (hmember : v.member? key = some x) (hread : read x = .ok a) :
    typedMember v key missing read = .ok a := by
  rw [typedMember, hmember]
  dsimp only
  rw [hread]
  rfl

theorem Operator.ofValue_name (op : Operator) : Operator.ofValue (.text op.name) = .ok op := by
  rw [Operator.ofValue, Operator.ofName?_name]

theorem Filter.ofObject_toObject (f : Filter) : Filter.ofObject f.toObject = .ok f := by
  have hfield : typedMember f.toObject "field" (.refuse "missing") readText = .ok f.field :=
    typedMember_of_member? rfl rfl
  have hop : typedMember f.toObject "op" (.refuse "missing") Operator.ofValue = .ok f.op :=
    typedMember_of_member? rfl (Operator.ofValue_name f.op)
  have hvalue : f.toObject.memberD "value" = f.value := rfl
  unfold Filter.ofObject
  rw [hfield, hop, hvalue]
  rfl

theorem Spec.ofObject_toObject {s : Spec} (hlimit : 1 ≤ s.limit) :
    Spec.ofObject s.toObject = .ok s := by
  have haction : typedMember s.toObject "action" (.ok ()) readAction = .ok () :=
    typedMember_of_member? rfl rfl
  have htable : typedMember s.toObject "table" (.refuse "missing") readText = .ok s.table :=
    typedMember_of_member? rfl rfl
  have htext : ∀ name, readText (.text name) = .ok name := fun _ => rfl
  have hfields : typedMember s.toObject "fields" (.ok []) (readList readText) = .ok s.fields :=
    typedMember_of_member? rfl (readList_map htext s.fields)
  have hfilters : typedMember s.toObject "filters" (.ok []) (readList Filter.ofObject) =
      .ok s.filters :=
    typedMember_of_member? rfl (readList_map Filter.ofObject_toObject s.filters)
  have hwhole : Spec.readLimit (.int s.limit) = .ok s.limit := by
    rw [Spec.readLimit, readWhole]
    exact if_pos hlimit
  have hlimit : typedMember s.toObject "limit" (.ok 10) readLimit = .ok s.limit :=
    typedMember_of_member? rfl hwhole
  unfold Spec.ofObject
  rw [haction, htable, hfields, hfilters, hlimit]
  rfl

end QueryGate
