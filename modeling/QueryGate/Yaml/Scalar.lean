import QueryGate.Failure
import QueryGate.Number.Binary64

/-!
# What plain scalars stand for

A scalar without quotation marks is null, a boolean, a number, a day or a timestamp if it is written
like one, and otherwise a text. Numbers may hold underscores, and may be written in base 2, 8, 16 or
as digits of base 60 with colons between them.
-/

set_option autoImplicit false

namespace QueryGate.Yaml

def nullWords : List String := ["", "~", "null", "Null", "NULL"]

def trueWords : List String := ["yes", "Yes", "YES", "true", "True", "TRUE", "on", "On", "ON"]

def falseWords : List String := ["no", "No", "NO", "false", "False", "FALSE", "off", "Off", "OFF"]

def isDigitOrLine (c : Char) : Bool := (Numeral.asciiDigit? c).isSome || c == '_'

def inBase (base : Nat) (cs : List Char) : Nat :=
  (cs.filterMap Text.hexValue?).foldl (fun n d => base * n + d) 0

def inSixties (parts : List (List Char)) : Nat :=
  parts.foldl (fun n part => 60 * n + inBase 10 part) 0

def isSixtieth (cs : List Char) : Bool :=
  cs.all (fun c => (Numeral.asciiDigit? c).isSome) && 1 ≤ cs.length && cs.length ≤ 2 &&
    inBase 10 cs < 60

/-- Digits of base 60: a first group that starts with one of the given digits, and more behind
colons. -/
def areSixties (first : Char → Bool) (parts : List (List Char)) : Bool :=
  match parts with
  | (c :: cs) :: rest => first c && cs.all isDigitOrLine && !rest.isEmpty && rest.all isSixtieth
  | _ => false

def isPositiveDigit (c : Char) : Bool := '1' ≤ c && c ≤ '9'

def magnitude? (cs : List Char) : Option Nat :=
  match cs with
  | ['0'] => some 0
  | '0' :: 'b' :: ds =>
    if !ds.isEmpty && ds.all (fun c => c == '0' || c == '1' || c == '_') then some (inBase 2 ds)
    else none
  | '0' :: 'x' :: ds =>
    if !ds.isEmpty && ds.all (fun c => (Text.hexValue? c).isSome || c == '_') then
      some (inBase 16 ds)
    else none
  | '0' :: ds =>
    if ds.all (fun c => ('0' ≤ c && c ≤ '7') || c == '_') then some (inBase 8 ds) else none
  | c :: ds =>
    if isPositiveDigit c && ds.all isDigitOrLine then some (inBase 10 cs)
    else
      let parts := Text.splitAll ':' cs
      if areSixties isPositiveDigit parts then some (inSixties parts) else none
  | [] => none

def whole? (cs : List Char) : Option Int :=
  let (negative, digits) := Numeral.sign cs
  (magnitude? digits).map fun n => if negative then -(n : Int) else n

def isExponent (cs : List Char) : Bool :=
  match cs with
  | [] => true
  | e :: s :: d :: ds =>
    (e == 'e' || e == 'E') && (s == '+' || s == '-') &&
      (d :: ds).all fun c => (Numeral.asciiDigit? c).isSome
  | _ => false

/-- Digits with a point among them and perhaps an exponent; only digits may stand before the
point. -/
def isDecimal (cs : List Char) : Bool :=
  match Text.splitFirst '.' cs with
  | none => false
  | some (whole, tail) =>
    let fraction := tail.takeWhile isDigitOrLine
    let starts (ds : List Char) : Bool := ds.head?.any fun c => (Numeral.asciiDigit? c).isSome
    whole.all isDigitOrLine && (starts whole || (whole.isEmpty && starts fraction)) &&
      isExponent (tail.drop fraction.length)

def decimal? (negative : Bool) (cs : List Char) : Option Binary64 :=
  (Numeral.readPlain? (cs.filter (· != '_'))).map fun n =>
    Binary64.ofNumeral { n with negative }

def sixtiesDecimal? (negative : Bool) (cs : List Char) : Option Binary64 := do
  let (whole, fraction) ← Text.splitFirst '.' cs
  let parts := Text.splitAll ':' whole
  let digits := fraction.filter (· != '_')
  if areSixties (fun c => (Numeral.asciiDigit? c).isSome) parts && fraction.all isDigitOrLine then
    some (Binary64.ofRatio negative
      (inSixties parts * tenTo digits.length + inBase 10 digits) (tenTo digits.length))
  else none

/-- The float that a scalar writes. A number without digits before its point takes no sign. -/
def float? (cs : List Char) : Option Binary64 :=
  let (negative, rest) := Numeral.sign cs
  let signed := rest.length != cs.length
  let word := String.ofList rest
  if word = ".inf" ∨ word = ".Inf" ∨ word = ".INF" then some (.infinite negative)
  else if !signed && (word = ".nan" ∨ word = ".NaN" ∨ word = ".NAN") then some .nan
  else if isDecimal rest && !(signed && rest.head? == some '.') then decimal? negative rest
  else sixtiesDecimal? negative rest

def shortNumber? (most : Nat) (cs : List Char) : Option (Nat × List Char) :=
  match Numeral.digits Numeral.plain (cs.take most) with
  | ([], _) => none
  | (ds, _) => some (Numeral.ofDigits ds, cs.drop ds.length)

/-- The offset at the end of a timestamp, in seconds: none, `Z`, or a sign with hours and perhaps
minutes. -/
def offset? (cs : List Char) : Option (Option Int) :=
  match cs.dropWhile fun c => c == ' ' || c == '\t' with
  | [] => if cs.isEmpty then some none else none
  | ['Z'] => some (some 0)
  | sign :: rest =>
    if sign = '+' ∨ sign = '-' then do
      let (hours, rest) ← shortNumber? 2 rest
      let minutes ← match rest with
        | [] => some 0
        | ':' :: rest =>
          match IsoReader.fixed? 2 rest with
          | some (m, []) => some m
          | _ => none
        | _ => none
      let n : Int := hours * 3600 + minutes * 60
      some (some (if sign = '-' then -n else n))
    else none

/-- The numbers of a timestamp: year, month, day, hour, minute, second, microsecond and offset. -/
def timestampNumbers? (cs : List Char) : Option (List Nat × Option Int) := do
  let (year, cs) ← IsoReader.fixed? 4 cs
  let cs ← IsoReader.skip? '-' cs
  let (month, cs) ← shortNumber? 2 cs
  let cs ← IsoReader.skip? '-' cs
  let (day, cs) ← shortNumber? 2 cs
  let cs ← match cs with
    | c :: rest =>
      if c = 'T' ∨ c = 't' then some rest
      else if c = ' ' ∨ c = '\t' then some (rest.dropWhile fun c => c == ' ' || c == '\t')
      else none
    | [] => none
  let (hour, cs) ← shortNumber? 2 cs
  let cs ← IsoReader.skip? ':' cs
  let (minute, cs) ← IsoReader.fixed? 2 cs
  let cs ← IsoReader.skip? ':' cs
  let (second, cs) ← IsoReader.fixed? 2 cs
  let (micro, cs) := IsoReader.fraction cs
  let offset ← offset? cs
  some ([year, month, day, hour, minute, second, micro], offset)

def dayNumbers? (cs : List Char) : Option (Nat × Nat × Nat) := do
  let (year, cs) ← IsoReader.fixed? 4 cs
  let cs ← IsoReader.skip? '-' cs
  let (month, cs) ← IsoReader.fixed? 2 cs
  let cs ← IsoReader.skip? '-' cs
  match IsoReader.fixed? 2 cs with
  | some (day, []) => some (year, month, day)
  | _ => none

def required (v : Option Value) : Attempt Value :=
  match v with
  | some v => .ok v
  | none => .error (.badValue "day is out of range for month")

def plainValue (cs : List Char) : Attempt Value :=
  let word := String.ofList cs
  if nullWords.contains word then .ok .null
  else if trueWords.contains word then .ok (.bool true)
  else if falseWords.contains word then .ok (.bool false)
  else
    match whole? cs, float? cs, dayNumbers? cs, timestampNumbers? cs with
    | some n, _, _, _ => .ok (.int n)
    | none, some x, _, _ => .ok (.float x)
    | none, none, some (y, m, d), _ => required ((Day.ofNumbers? y m d).map .day)
    | none, none, none, some ([y, mo, d, h, mi, s, us], offset) =>
      required ((Timestamp.ofNumbers? y mo d h mi s us offset).map .moment)
    | _, _, _, _ => .ok (.text word)

end QueryGate.Yaml
