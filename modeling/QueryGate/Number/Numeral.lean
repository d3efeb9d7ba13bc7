import QueryGate.Text.Basic

/-!
# Decimal numerals

A numeral is a sign, a coefficient and a power of ten; reading keeps its exact value. Three
readers: `Numeral.read?` for numbers with a point or an exponent, digits of every script and
underscores between digits; `Numeral.readPlain?` for the same form in ASCII digits alone; and
`readInt?` for whole numbers.
-/

set_option autoImplicit false

namespace QueryGate

def twoTo (n : Nat) : Nat := Nat.pow 2 n

def tenTo (n : Nat) : Nat := Nat.pow 10 n

def fits64 (n : Int) : Bool := -0x8000000000000000 ≤ n && n < 0x8000000000000000

structure Numeral where
  negative : Bool
  coefficient : Nat
  exponent : Int
deriving DecidableEq, Repr

namespace Numeral

def asciiDigit? (c : Char) : Option Nat :=
  if '0' ≤ c ∧ c ≤ '9' then some (c.toNat - '0'.toNat) else none

/-- How a reader takes digits: which characters are digits, and whether `_` may separate them. -/
structure Alphabet where
  digit? : Char → Option Nat
  grouped : Bool

def liberal : Alphabet := ⟨Text.digitValue?, true⟩

def plain : Alphabet := ⟨asciiDigit?, false⟩

def groupedPlain : Alphabet := ⟨asciiDigit?, true⟩

/-- The digits at the front, and the rest; `after` says whether a digit stands just before. -/
def digitsFrom (a : Alphabet) (after : Bool) : List Char → List Nat × List Char
  | [] => ([], [])
  | c :: rest =>
    match a.digit? c with
    | some d =>
      let (ds, tail) := digitsFrom a true rest
      (d :: ds, tail)
    | none =>
      if a.grouped && after && c == '_' && (rest.head?.any fun c' => (a.digit? c').isSome) then
        digitsFrom a false rest
      else ([], c :: rest)

def digits (a : Alphabet) (cs : List Char) : List Nat × List Char := digitsFrom a false cs

def ofDigits (ds : List Nat) : Nat := ds.foldl (fun n d => 10 * n + d) 0

def sign : List Char → Bool × List Char
  | '-' :: rest => (true, rest)
  | '+' :: rest => (false, rest)
  | cs => (false, cs)

def exponentPart? (a : Alphabet) : List Char → Option Int
  | [] => some 0
  | e :: rest =>
    if e = 'e' ∨ e = 'E' then
      let (negative, rest) := sign rest
      match digits a rest with
      | (d :: ds, []) =>
        let n : Int := ofDigits (d :: ds)
        some (if negative then -n else n)
      | _ => none
    else none

def readWith? (a : Alphabet) (cs : List Char) : Option Numeral :=
  let (negative, cs) := sign cs
  let (whole, cs) := digits a cs
  let (fraction, cs) :=
    match cs with
    | '.' :: rest => digits a rest
    | _ => ([], cs)
  if whole.isEmpty && fraction.isEmpty then none
  else
    (exponentPart? a cs).map fun e =>
      ⟨negative, ofDigits (whole ++ fraction), e - fraction.length⟩

def read? (cs : List Char) : Option Numeral :=
  readWith? liberal (Text.trimBy Text.isNumeralBlank cs)

def readPlain? (cs : List Char) : Option Numeral := readWith? plain cs

end Numeral

inductive WholeNumberFault where
  | malformed
  | tooLong
deriving DecidableEq, Repr

def maxWholeDigits : Nat := 4300

/-- Blanks around, a sign, digits of every script with single underscores between them. -/
def readInt? (cs : List Char) : Except WholeNumberFault Int :=
  let (negative, cs) := Numeral.sign (Text.trimBy Text.isNumeralBlank cs)
  match Numeral.digits Numeral.liberal cs with
  | (d :: ds, []) =>
    if maxWholeDigits < (d :: ds).length then .error .tooLong
    else
      let n : Int := Numeral.ofDigits (d :: ds)
      .ok (if negative then -n else n)
  | _ => .error .malformed

end QueryGate
