import QueryGate.Sql.Select
import QueryGate.Store.Scalar

/-!
# Binding values to statements

Before a statement runs, its values are converted for the columns they are compared with, and then
handed over as scalars. The members of a list are converted as the kind of the first one asks, and a
null among them is handed over as one of them.
-/

set_option autoImplicit false

namespace QueryGate

/-- A clause whose values are scalars. -/
inductive BoundClause where
  | never
  | compare (c : ColumnRef) (comparison : Comparison) (v : Scalar)
  | oneOf (c : ColumnRef) (vs : List Scalar)
  | like (c : ColumnRef) (pattern : String)

namespace Value

def momentText : Value → Value
  | .moment t => .text t.storedText
  | .day d => .text d.isoText
  | v => v

def convertFor (kind : ColumnKind) (v : Value) : Attempt Value :=
  match kind, v with
  | .moment, .list _ => .error .unbindable
  | .moment, .object _ => .error .unbindable
  | _, v => .ok v.momentText

def toTruth (v : Value) : Attempt Value :=
  if v.isNull then .ok .null
  else if v.same (.bool true) then .ok (.int 1)
  else if v.same (.bool false) then .ok (.int 0)
  else .error .unbindable

def toFloat (v : Value) : Attempt Value :=
  match v with
  | .null => .ok .null
  | .bool b => .ok (.float (Binary64.ofInt b.toNat))
  | .int n =>
    match Binary64.ofInt n with
    | .infinite _ => .error .unbindable
    | x => .ok (.float x)
  | .float x => .ok (.float x)
  | .text s =>
    match Binary64.read? s.toList with
    | some x => .ok (.float x)
    | none => .error .unbindable
  | _ => .error .unbindable

def toMoment (v : Value) : Attempt Value :=
  match v with
  | .null => .ok .null
  | .moment t => .ok (.text t.storedText)
  | .day d => .ok (.text (Timestamp.ofDay d).storedText)
  | _ => .error .unbindable

def toDay (v : Value) : Attempt Value :=
  match v with
  | .null => .ok .null
  | .moment t => .ok (.text t.date.isoText)
  | .day d => .ok (.text d.isoText)
  | _ => .error .unbindable

/-- How the first member of a list converts all of them. -/
def memberConversion (kind : ColumnKind) (first : Value) : Value → Attempt Value :=
  match first with
  | .bool _ => toTruth
  | .float _ => toFloat
  | .moment _ => toMoment
  | .day _ => toDay
  | .text _ | .int _ => .ok
  | .null | .list _ | .object _ =>
    match kind with
    | .moment => toMoment
    | _ => .ok

/-- A value handed over to the store. -/
def toScalar : Value → Attempt Scalar
  | .null => .ok .null
  | .bool b => .ok (.int b.toNat)
  | .int n =>
    if fits64 n then .ok (.int n)
    else .error (.tooLarge "integer outside the range of stored numbers")
  | .float x => .ok (if x = .nan then .null else .real x)
  | .text s => .ok (.text s)
  | .moment t => .ok (.text (Value.shown (.moment t)))
  | .day d => .ok (.text d.isoText)
  | .list _ | .object _ => .error .unsupportedParameter

end Value

namespace Clause

def convert : Clause → Attempt Clause
  | .compare c comparison v =>
    (v.convertFor c.column.kind).map (.compare c comparison)
  | .oneOf c [] => .ok (.oneOf c [])
  | .oneOf c (v :: vs) =>
    ((v :: vs).mapM (Value.memberConversion c.column.kind v)).map (.oneOf c)
  | clause => .ok clause

def bind : Clause → Attempt BoundClause
  | .isNull _ => .ok .never
  | .isTruth c b => .ok (.compare c .equal (.int b.toNat))
  | .compare c comparison v => v.toScalar.map (.compare c comparison)
  | .oneOf c vs => (vs.mapM Value.toScalar).map (.oneOf c)
  | .like c pattern => .ok (.like c pattern)

end Clause

end QueryGate
