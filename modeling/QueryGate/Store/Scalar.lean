import QueryGate.Number.WideFloat
import QueryGate.Store.Basic
import QueryGate.Text.Case

/-!
# Comparing stored values

The store compares numbers with numbers and texts with texts; every number sorts before every
text, and nothing holds of null. Before a comparison a text column turns numbers into text, and a
number or time column turns numeric text into numbers. `Scalar.like` searches by pattern.
-/

set_option autoImplicit false

namespace QueryGate

inductive Scalar where
  | null
  | int (n : Int)
  | real (x : Binary64)
  | text (s : String)
deriving DecidableEq

namespace Scalar

def compareChars : List Char → List Char → Ordering
  | [], [] => .eq
  | [], _ :: _ => .lt
  | _ :: _, [] => .gt
  | a :: as, b :: bs =>
    if a.toNat < b.toNat then .lt else if b.toNat < a.toNat then .gt else compareChars as bs

def order : Scalar → Scalar → Option Ordering
  | .null, _ => none
  | _, .null => none
  | .int m, .int n => some (compare m n)
  | .int m, .real x => (x.orderInt m).map Ordering.swap
  | .real x, .int n => x.orderInt n
  | .real x, .real y => x.order y
  | .text s, .text t => some (compareChars s.toList t.toList)
  | .int _, .text _ => some .lt
  | .real x, .text _ => if x = .nan then none else some .lt
  | .text _, .int _ => some .gt
  | .text _, .real x => if x = .nan then none else some .gt

def isNumericBlank (c : Char) : Bool := c == ' ' || (0x09 ≤ c.toNat && c.toNat ≤ 0x0D)

def isWholeText (cs : List Char) : Bool :=
  match Numeral.digits Numeral.plain (Numeral.sign cs).2 with
  | (_ :: _, []) => true
  | _ => false

def fractionLength (cs : List Char) : Nat :=
  (((cs.dropWhile (· ≠ '.')).drop 1).takeWhile fun c => (Numeral.asciiDigit? c).isSome).length

/-- The exponent as the store takes it in: one of six digits or more counts as ten thousand. -/
def cappedExponent (e : Int) : Int :=
  if e.natAbs < 100000 then e else if e < 0 then -10000 else 10000

def numericText? (s : String) : Option Scalar :=
  let cs := Text.trimBy isNumericBlank s.toList
  (Numeral.readPlain? cs).map fun x =>
    let n : Int := if x.negative then -x.coefficient else x.coefficient
    let places := fractionLength cs
    let p := cappedExponent (x.exponent + places) - places
    if isWholeText cs && fits64 n then .int n
    else .real (WideFloat.read x.negative x.coefficient p)

def realText (x : Binary64) : String := if x.isZero then "0.0" else NumberStyle.stored.text x

def asText : Scalar → Scalar
  | .int n => .text (toString n)
  | .real x => .text (realText x)
  | v => v

def forColumn (kind : ColumnKind) (v : Scalar) : Scalar :=
  match kind with
  | .text => v.asText
  | .integer | .moment =>
    match v with
    | .text s => (numericText? s).getD v
    | v => v

def searchText? : Scalar → Option String
  | .null => none
  | .int n => some (toString n)
  | .real x => some (realText x)
  | .text s => some s

end Scalar

namespace Cell

def scalar : Cell → Scalar
  | .int n => .int n
  | .text s => .text s
  | .moment t => .text t.storedText

end Cell

inductive PatternPart where
  | anyRun
  | anyOne
  | exactly (c : Char)
deriving DecidableEq

namespace PatternPart

/-- The parts of a pattern: `%` for any run, `_` for any one character, a backslash before a
character that stands for itself. A backslash at the end matches nothing. -/
def parse : List Char → Option (List PatternPart)
  | [] => some []
  | '\\' :: [] => none
  | '\\' :: c :: rest => (parse rest).map (.exactly c :: ·)
  | '%' :: rest => (parse rest).map (.anyRun :: ·)
  | '_' :: rest => (parse rest).map (.anyOne :: ·)
  | c :: rest => (parse rest).map (.exactly c :: ·)

/-- A character as the search reads it: in lower case if it is an ASCII letter, and U+FFFD for the
two noncharacters behind it. -/
def searched (c : Char) : Char :=
  if c = '\uFFFE' ∨ c = '\uFFFF' then '\uFFFD' else Text.asciiLower c

def matchesText : List PatternPart → List Char → Bool
  | [], cs => cs.isEmpty
  | .anyRun :: parts, cs => Text.anySuffix (matchesText parts) cs
  | .anyOne :: parts, cs =>
    match cs with
    | [] => false
    | _ :: rest => matchesText parts rest
  | .exactly c :: parts, cs =>
    match cs with
    | [] => false
    | d :: rest => searched c == searched d && matchesText parts rest

end PatternPart

namespace Scalar

def beforeNul (s : String) : List Char := s.toList.takeWhile (· ≠ '\x00')

def like (pattern : String) (v : Scalar) : Bool :=
  match v.searchText?, PatternPart.parse (beforeNul pattern) with
  | some s, some parts => PatternPart.matchesText parts (beforeNul s)
  | _, _ => false

end Scalar

end QueryGate
