import QueryGate.Failure
import QueryGate.Number.Numeral

/-!
# Looking into dynamic values

Members, items and whole numbers of values that were expected to have them. Where a value is of
another kind, the failure says so.
-/

set_option autoImplicit false

namespace QueryGate.Value

/-- The items that a value can be gone through: a list's items, a text's characters, an object's
keys. -/
def items : Value → Attempt (List Value)
  | .list items => .ok items
  | .text s => .ok (s.toList.map fun c => .text c.toString)
  | .object members => .ok (members.map fun m => .text m.1)
  | v => .error (.notIterable v)

def required (v : Value) (key : String) : Attempt Value :=
  match v with
  | .object members =>
    match Assoc.get? key members with
    | some found => .ok found
    | none => .error (.missingKey (.text key))
  | v => .error (.notSubscriptable v)

def optional? (v : Value) (key : String) : Attempt (Option Value) :=
  match v with
  | .object members => .ok (Assoc.get? key members)
  | v => .error (.noMember v.kindName "get")

def toWhole : Value → Attempt Int
  | .int n => .ok n
  | .bool b => .ok b.toNat
  | .float x =>
    match x with
    | .nan => .error (.badValue "not a number")
    | .infinite _ => .error (.tooLarge "not a finite number")
    | .finite _ _ _ => .ok (x.truncate?.getD 0)
  | .text s =>
    match readInt? s.toList with
    | .ok n => .ok n
    | .error _ =>
      .error (.badValue ("no whole number: " ++ quotedText s))
  | _ => .error (.wrongKind "neither a number nor a text")

def first (v : Value) : Attempt Value :=
  match v with
  | .list (x :: _) => .ok x
  | .list [] => .error (.outOfRange false)
  | .text s =>
    match s.toList with
    | c :: _ => .ok (.text c.toString)
    | [] => .error (.outOfRange true)
  | .object _ => .error (.missingKey (.int 0))
  | v => .error (.notSubscriptable v)

/-- A field of a record, null where it is missing; values other than objects are no records. -/
def field (v : Value) (name : String) : Attempt Value :=
  match v with
  | .object members => .ok ((Assoc.get? name members).getD .null)
  | v => .error (.noMember v.kindName name)

def sized (v : Value) : Attempt Value :=
  match v with
  | .text _ | .list _ | .object _ => .ok v
  | v => .error (.wrongKind ("object of type '" ++ v.kindName ++ "' has no len()"))

def orElse (v : Option Value) (other : Value) : Value :=
  match v with
  | some v => if v.isTruthy then v else other
  | none => other

end QueryGate.Value
