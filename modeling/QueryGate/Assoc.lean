/-!
# Ordered association lists

Pairs in the order in which their keys first came. Main operations: `Assoc.put` replaces a value
in place or appends a new pair, `Assoc.adjust` changes the value under a key or starts one.
-/

set_option autoImplicit false

namespace QueryGate.Assoc

variable {κ α : Type} [BEq κ]

def get? (key : κ) : List (κ × α) → Option α
  | [] => none
  | (k, v) :: rest => if k == key then some v else get? key rest

def put (key : κ) (value : α) : List (κ × α) → List (κ × α)
  | [] => [(key, value)]
  | (k, v) :: rest => if k == key then (k, value) :: rest else (k, v) :: put key value rest

/-- Changes the value under the key where it stands, or appends one made from the start value. -/
def adjust (key : κ) (start : α) (change : α → α) : List (κ × α) → List (κ × α)
  | [] => [(key, change start)]
  | (k, v) :: rest =>
    if k == key then (k, change v) :: rest else (k, v) :: adjust key start change rest

def ofPairs (pairs : List (κ × α)) : List (κ × α) :=
  pairs.foldl (fun acc p => put p.1 p.2 acc) []

def keys (pairs : List (κ × α)) : List κ := pairs.map (·.1)

@[simp] theorem get?_nil (key : κ) : get? key ([] : List (κ × α)) = none := rfl

theorem get?_cons (key k : κ) (v : α) (rest : List (κ × α)) :
    get? key ((k, v) :: rest) = if k == key then some v else get? key rest := rfl

end QueryGate.Assoc
