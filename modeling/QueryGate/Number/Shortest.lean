import QueryGate.Number.Binary64

/-!
# Decimal text of binary64 numbers

The digits are either the fewest that read back as the same number, or a given count of
significant digits; a `NumberStyle` says how digits become text.
-/

set_option autoImplicit false

namespace QueryGate

structure DecimalDigits where
  coefficient : Nat
  exponent : Int
deriving DecidableEq, Repr

namespace Binary64

def scaleDownDecimal (num den : Nat) (p : Int) : Nat × Nat :=
  if 0 ≤ p then (num, den * tenTo p.toNat) else (num * tenTo (-p).toNat, den)

def magnitudeRatio (m : Nat) (e : Int) : Nat × Nat :=
  if 0 ≤ e then (m * twoTo e.toNat, 1) else (m, twoTo (-e).toNat)

def decimalExponent (num den : Nat) : Int :=
  if den ≤ num then (decimalLength (num / den) : Int) - 1
  else -(decimalLength ((den + num - 1) / num - 1) : Int)

/-- Do the numbers `c * 10^p` round to `m * 2^e`? The ends of the interval count when `m` is
even. -/
def roundsTo (m : Nat) (e : Int) (c : Nat) (p : Int) : Bool :=
  let below := if m = twoTo 52 ∧ leastExponent < e then 1 else 2
  let (cn, cd) := if 0 ≤ p then (c * tenTo p.toNat, 1) else (c, tenTo (-p).toNat)
  let (ln, ld) := magnitudeRatio (4 * m - below) (e - 2)
  let (hn, hd) := magnitudeRatio (4 * m + 2) (e - 2)
  if m % 2 = 0 then ln * cd ≤ cn * ld && cn * hd ≤ hn * cd
  else ln * cd < cn * ld && cn * hd < hn * cd

/-- The neighbour of `m * 2^e` on the grid of `k` significant digits that rounds to it, if any. -/
def onGrid? (m : Nat) (e : Int) (k : Nat) : Option DecimalDigits :=
  let (num, den) := magnitudeRatio m e
  let p := decimalExponent num den - k + 1
  let (n, d) := scaleDownDecimal num den p
  let low := n / d
  let rest := n % d
  let nearer := if 2 * rest < d then low else if d < 2 * rest then low + 1 else low + low % 2
  let farther := if nearer = low then low + 1 else low
  if roundsTo m e nearer p then some ⟨nearer, p⟩
  else if roundsTo m e farther p then some ⟨farther, p⟩
  else none

def dropZeros : Nat → DecimalDigits → DecimalDigits
  | 0, x => x
  | fuel + 1, x =>
    if x.coefficient ≠ 0 ∧ x.coefficient % 10 = 0 then
      dropZeros fuel ⟨x.coefficient / 10, x.exponent + 1⟩
    else x

/-- The fewest digits that read back as `m * 2^e`, and of those the nearest. -/
def shortest (m : Nat) (e : Int) : DecimalDigits :=
  match (List.range 17).findSome? fun k => onGrid? m e (k + 1) with
  | some x => dropZeros 20 x
  | none => ⟨m, e⟩

def significant (k : Nat) (m : Nat) (e : Int) : DecimalDigits :=
  let (num, den) := magnitudeRatio m e
  let p := decimalExponent num den - k + 1
  let (n, d) := scaleDownDecimal num den p
  dropZeros 20 ⟨roundDiv n d, p⟩

end Binary64

/-- How digits become text. Positional notation is used while the exponent of the first digit is
at least `leastPositional` and below `positionalEnd`. -/
structure NumberStyle where
  digits : Nat → Int → DecimalDigits
  leastPositional : Int
  positionalEnd : Int
  pointZero : Bool
  pointZeroBeforeExponent : Bool
  infinity : String
  nan : String

namespace NumberStyle

def digitText (n : Nat) : List Char := Nat.toDigits 10 n

def exponentText (e : Int) : List Char :=
  let ds := digitText e.natAbs
  'e' :: (if e < 0 then '-' else '+') :: (if ds.length < 2 then '0' :: ds else ds)

def magnitudeText (style : NumberStyle) (x : DecimalDigits) : List Char :=
  let ds := digitText x.coefficient
  let first : Int := ds.length + x.exponent - 1
  if x.coefficient = 0 then if style.pointZero then ['0', '.', '0'] else ['0']
  else if style.leastPositional ≤ first ∧ first < style.positionalEnd then
    if first < 0 then
      '0' :: '.' :: (List.replicate (-first - 1).toNat '0' ++ ds)
    else
      let whole := (first + 1).toNat
      let fraction := ds.drop whole
      ds.take whole ++ List.replicate (whole - ds.length) '0' ++
        (if fraction.isEmpty then if style.pointZero then ['.', '0'] else []
         else '.' :: fraction)
  else
    match ds with
    | [] => []
    | [d] =>
      d :: ((if style.pointZeroBeforeExponent then ['.', '0'] else []) ++ exponentText first)
    | d :: more => d :: '.' :: (more ++ exponentText first)

def text (style : NumberStyle) : Binary64 → String
  | .nan => style.nan
  | .infinite negative => (if negative then "-" else "") ++ style.infinity
  | .finite negative m e =>
    (if negative then "-" else "") ++
      String.ofList (style.magnitudeText (if m = 0 then ⟨0, 0⟩ else style.digits m e))

def shown : NumberStyle := ⟨Binary64.shortest, -4, 16, true, false, "inf", "nan"⟩

def json : NumberStyle := { shown with infinity := "Infinity", nan := "NaN" }

def general : NumberStyle := ⟨Binary64.significant 6, -4, 6, false, false, "inf", "nan"⟩

end NumberStyle

end QueryGate
