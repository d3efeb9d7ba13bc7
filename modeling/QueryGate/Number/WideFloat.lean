import QueryGate.Number.Shortest

/-!
# Decimal text by rounded products

The store turns decimal text into binary64 numbers, and these into decimal text, by products with
powers of ten, each rounded to a mantissa of 64 bits. That is close to the nearest number, but now
and then beside it.
-/

set_option autoImplicit false

namespace QueryGate

/-- The number `mantissa * 2^exponent`; arithmetic keeps 64 bits of the mantissa. -/
structure WideFloat where
  mantissa : Nat
  exponent : Int
deriving DecidableEq, Repr

namespace WideFloat

def ofRatio (num den : Nat) : WideFloat :=
  if num = 0 then ⟨0, 0⟩
  else
    let guess : Int := (Nat.log2 num : Int) - (Nat.log2 den : Int) - 63
    let (n, d) := Binary64.scaleDown num den guess
    let e := if n < d * twoTo 63 then guess - 1 else guess
    let (n, d) := Binary64.scaleDown num den e
    ⟨Binary64.roundDiv n d, e⟩

def mul (x y : WideFloat) : WideFloat :=
  let product := ofRatio (x.mantissa * y.mantissa) 1
  { product with exponent := product.exponent + x.exponent + y.exponent }

def tens (p : Int) : WideFloat :=
  if 0 ≤ p then ofRatio (tenTo p.toNat) 1 else ofRatio 1 (tenTo (-p).toNat)

def lessThan (x y : WideFloat) : Bool :=
  let (a, b) := Binary64.magnitudeRatio x.mantissa x.exponent
  let (c, d) := Binary64.magnitudeRatio y.mantissa y.exponent
  decide (a * d < c * b)

def times (factor : WideFloat) : Nat → WideFloat → WideFloat
  | 0, x => x
  | n + 1, x => times factor n (x.mul factor)

def shift (x : WideFloat) (p : Int) : WideFloat :=
  let unit : Int := if p < 0 then -1 else 1
  let n := p.natAbs
  times (tens unit) (n % 10)
    (times (tens (10 * unit)) (n % 100 / 10) (times (tens (100 * unit)) (n / 100) x))

def significandEnd : Nat := (twoTo 64 - 10) / 10

def significand (coefficient : Nat) : Nat × Nat :=
  let extra := Binary64.decimalLength coefficient - 19
  let n := if significandEnd ≤ coefficient / tenTo extra then extra else extra - 1
  (coefficient / tenTo n, n)

/-- An exponent is brought nearer to zero while the significand bears it; `fuel` bounds the
steps. -/
def settle : Nat → Nat → Int → Nat × Int
  | 0, s, e => (s, e)
  | fuel + 1, s, e =>
    if 0 < e ∧ s < (twoTo 64 - 1) / 10 then settle fuel (10 * s) (e - 1)
    else if e < 0 ∧ s % 10 = 0 then settle fuel (s / 10) (e + 1)
    else (s, e)

def largest : WideFloat := ⟨twoTo 53 - 1, Binary64.greatestExponent⟩

/-- The nearest binary64 number. What lies beyond the largest finite one becomes infinite, however
close. -/
def toBinary64 (negative : Bool) (x : WideFloat) : Binary64 :=
  if largest.lessThan x then .infinite negative
  else
    let (num, den) := Binary64.magnitudeRatio x.mantissa x.exponent
    Binary64.ofRatio negative num den

def read (negative : Bool) (coefficient : Nat) (p : Int) : Binary64 :=
  let (s, dropped) := significand coefficient
  let (s, e) := settle 20 s (p + dropped)
  toBinary64 negative (if e = 0 ∨ s = 0 then ⟨s, 0⟩ else shift ⟨s, 0⟩ e)

/-- Products with one factor while a test asks for another; the power of ten that they take away is
counted. -/
def scaleWhile (test : WideFloat → Bool) (p : Int) : Nat → WideFloat × Int → WideFloat × Int
  | 0, x => x
  | fuel + 1, (x, taken) =>
    if test x then scaleWhile test p fuel (x.mul (tens (-p)), taken + p) else (x, taken)

/-- The number scaled to lie between `10^17` and `10^19`, and the power of ten that was taken. -/
def scaled (x : WideFloat) : WideFloat × Int :=
  if x.lessThan (tens 19) then
    scaleWhile (·.lessThan (tens 17)) (-1) 20
      (scaleWhile (·.lessThan (tens 7)) (-10) 20
        (scaleWhile (·.lessThan (tens (-97))) (-100) 20 (x, 0)))
  else
    scaleWhile (!·.lessThan (tens 19)) 1 20
      (scaleWhile (!·.lessThan (tens 29)) 10 20
        (scaleWhile (!·.lessThan (tens 119)) 100 20 (x, 0)))

def fifteenDigits (m : Nat) (e : Int) : DecimalDigits :=
  let (x, p) := scaled ⟨m, e⟩
  let (num, den) := Binary64.magnitudeRatio x.mantissa x.exponent
  let whole := num / den
  let n := Binary64.decimalLength whole - 15
  Binary64.dropZeros 20 ⟨(whole + 5 * tenTo (n - 1)) / tenTo n, p + n⟩

end WideFloat

namespace NumberStyle

/-- Fifteen significant digits, always with a point: the text a number has in a text column. -/
def stored : NumberStyle := ⟨WideFloat.fifteenDigits, -4, 15, true, true, "Inf", "NaN"⟩

end NumberStyle

end QueryGate
