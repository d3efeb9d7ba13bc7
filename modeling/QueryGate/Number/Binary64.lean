import QueryGate.Number.Numeral

/-!
# Binary64 numbers, exactly

A binary64 number is kept as its sign, mantissa and exponent, so that comparison, truncation and
rounding are exact arithmetic on integers. Finite numbers are in normal form: the mantissa has 53
bits unless the exponent is the least one. Main definitions: `Binary64.ofRatio` rounds an exact
quotient to the nearest binary64 number, ties to the even mantissa; `Binary64.order` compares.
-/

set_option autoImplicit false

namespace QueryGate

/-- A finite datum is `(-1)^negative * mantissa * 2^exponent`. -/
inductive Binary64 where
  | nan
  | infinite (negative : Bool)
  | finite (negative : Bool) (mantissa : Nat) (exponent : Int)
deriving DecidableEq, Repr, Inhabited

namespace Binary64

def leastExponent : Int := -1074

def greatestExponent : Int := 971

def zero (negative : Bool) : Binary64 := .finite negative 0 leastExponent

def scaleDown (num den : Nat) (e : Int) : Nat × Nat :=
  if 0 ≤ e then (num, den * twoTo e.toNat) else (num * twoTo (-e).toNat, den)

def roundDiv (num den : Nat) : Nat :=
  let q := num / den
  let r := num % den
  if 2 * r < den then q else if den < 2 * r then q + 1 else q + q % 2

/-- The exponent at which `num / den` has a mantissa of 53 bits, no less than the least one. -/
def exponentFor (num den : Nat) : Int :=
  let guess : Int := (Nat.log2 num : Int) - (Nat.log2 den : Int) - 52
  let (n, d) := scaleDown num den guess
  max leastExponent (if n < d * twoTo 52 then guess - 1 else guess)

def ofRatio (negative : Bool) (num den : Nat) : Binary64 :=
  if num = 0 then zero negative
  else
    let e := exponentFor num den
    let (n, d) := scaleDown num den e
    let m := roundDiv n d
    let (m, e) := if m = twoTo 53 then (twoTo 52, e + 1) else (m, e)
    if greatestExponent < e then .infinite negative else .finite negative m e

def ofInt (n : Int) : Binary64 := ofRatio (n < 0) n.natAbs 1

def decimalLength (n : Nat) : Nat := if n = 0 then 0 else (Nat.toDigits 10 n).length

/-- The binary64 number nearest to a numeral. Beyond `10^310` and below `10^-330` the answer is
known without computing the power of ten. -/
def ofNumeral (x : Numeral) : Binary64 :=
  let magnitude := (decimalLength x.coefficient : Int) + x.exponent
  if x.coefficient = 0 then zero x.negative
  else if 311 ≤ magnitude then .infinite x.negative
  else if magnitude ≤ -330 then zero x.negative
  else if 0 ≤ x.exponent then ofRatio x.negative (x.coefficient * tenTo x.exponent.toNat) 1
  else ofRatio x.negative x.coefficient (tenTo (-x.exponent).toNat)

def readSpecial? (cs : List Char) : Option Binary64 :=
  let (negative, rest) := Numeral.sign cs
  let word := String.ofList (rest.map asciiLowerLetter)
  if word = "inf" ∨ word = "infinity" then some (.infinite negative)
  else if word = "nan" then some .nan
  else none
where
  asciiLowerLetter (c : Char) : Char :=
    if 'A' ≤ c ∧ c ≤ 'Z' then Char.ofNat (c.toNat + 32) else c

/-- Reads a number: a numeral as `Numeral.read?` takes it, or the name of a special value. -/
def read? (cs : List Char) : Option Binary64 :=
  match readSpecial? (Text.trimBy Text.isNumeralBlank cs) with
  | some x => some x
  | none => (Numeral.read? cs).map ofNumeral

def units? : Binary64 → Option Int
  | .finite negative m e =>
    let n : Int := m * twoTo (e - leastExponent).toNat
    some (if negative then -n else n)
  | _ => none

def unitsOfInt (n : Int) : Int := n * twoTo 1074

def isFinite : Binary64 → Bool
  | .finite _ _ _ => true
  | _ => false

def isZero : Binary64 → Bool
  | .finite _ m _ => m == 0
  | _ => false

def order : Binary64 → Binary64 → Option Ordering
  | .nan, _ => none
  | _, .nan => none
  | .infinite a, .infinite b => some (compare b.toNat a.toNat)
  | .infinite a, .finite _ _ _ => some (if a then .lt else .gt)
  | .finite _ _ _, .infinite b => some (if b then .gt else .lt)
  | x@(.finite _ _ _), y@(.finite _ _ _) => some (compare (x.units?.getD 0) (y.units?.getD 0))

def orderInt : Binary64 → Int → Option Ordering
  | .nan, _ => none
  | .infinite negative, _ => some (if negative then .lt else .gt)
  | x@(.finite _ _ _), n => some (compare (x.units?.getD 0) (unitsOfInt n))

def truncate? (x : Binary64) : Option Int := x.units?.map fun n => n.tdiv (twoTo 1074)

def ceil? (x : Binary64) : Option Int := x.units?.map fun n => -((-n).fdiv (twoTo 1074))

def toInt? (x : Binary64) : Option Int := do
  let n ← x.truncate?
  if x.orderInt n = some .eq then some n else none

end Binary64

end QueryGate
