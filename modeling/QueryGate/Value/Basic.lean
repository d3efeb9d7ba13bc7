import QueryGate.Assoc
import QueryGate.Calendar
import QueryGate.Number.Shortest

/-!
# Dynamic values

What a document, a filter or a model reply can hold. Objects keep the order of their members.
`Value.same` is equality of content: a boolean equals the number it counts as, and an integer
equals a float of the same value.
-/

set_option autoImplicit false

namespace QueryGate

inductive Value where
  | null
  | bool (b : Bool)
  | int (n : Int)
  | float (x : Binary64)
  | text (s : String)
  | list (items : List Value)
  | object (members : List (String × Value))
  | moment (t : Timestamp)
  | day (d : Day)
deriving Inhabited

namespace Value

/-- The member of an object under a key; nothing for a missing key and for any other value. -/
def member? (key : String) : Value → Option Value
  | .object members => Assoc.get? key members
  | _ => none

def memberD (key : String) (v : Value) : Value := (v.member? key).getD .null

def isTruthy : Value → Bool
  | .null => false
  | .bool b => b
  | .int n => n != 0
  | .float x => !x.isZero
  | .text s => !s.isEmpty
  | .list items => !items.isEmpty
  | .object members => !members.isEmpty
  | .moment _ => true
  | .day _ => true

def isNull : Value → Bool
  | .null => true
  | _ => false

def text? : Value → Option String
  | .text s => some s
  | _ => none

def whole? : Value → Option Int
  | .int n => some n
  | .bool b => some b.toNat
  | _ => none

def isScalar : Value → Bool
  | .text _ | .int _ | .float _ | .bool _ => true
  | _ => false

def isHashable : Value → Bool
  | .list _ | .object _ => false
  | _ => true

def wholeIsFloat (n : Int) (x : Binary64) : Bool := x.orderInt n == some .eq

mutual

def same : Value → Value → Bool
  | .null, .null => true
  | .bool a, .bool b => a == b
  | .bool a, .int n => (a.toNat : Int) == n
  | .int n, .bool b => n == (b.toNat : Int)
  | .int m, .int n => m == n
  | .bool a, .float x => wholeIsFloat a.toNat x
  | .float x, .bool b => wholeIsFloat b.toNat x
  | .int n, .float x => wholeIsFloat n x
  | .float x, .int n => wholeIsFloat n x
  | .float x, .float y => x.order y == some .eq
  | .text s, .text t => s == t
  | .list xs, .list ys => sameItems xs ys
  | .object xs, .object ys => xs.length == ys.length && sameMembers xs ys
  | .moment a, .moment b => a == b
  | .day a, .day b => a == b
  | _, _ => false

def sameItems : List Value → List Value → Bool
  | [], [] => true
  | x :: xs, y :: ys => same x y && sameItems xs ys
  | _, _ => false

def sameMembers : List (String × Value) → List (String × Value) → Bool
  | [], _ => true
  | (k, x) :: xs, ys =>
    (match Assoc.get? k ys with
      | some y => same x y
      | none => false) && sameMembers xs ys

end

instance : BEq Value := ⟨same⟩

def distinct (items : List Value) : List Value :=
  Assoc.keys (Assoc.ofPairs (items.map fun v => (v, ())))

end Value

end QueryGate
