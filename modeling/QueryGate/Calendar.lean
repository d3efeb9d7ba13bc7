import QueryGate.Text.Basic
import QueryGate.Number.Numeral

/-!
# Days and timestamps

The proleptic Gregorian calendar from year 1 to 9999. `Timestamp.isoText` is the form that answers
show, `Timestamp.storedText` the form that the store compares; both have fields of fixed width.
-/

set_option autoImplicit false

namespace QueryGate

structure Day where
  year : Nat
  month : Nat
  day : Nat
deriving DecidableEq, Repr

namespace Day

def isLeapYear (year : Nat) : Bool :=
  year % 4 == 0 && (year % 100 != 0 || year % 400 == 0)

def daysInMonth (year month : Nat) : Nat :=
  if month = 2 then if isLeapYear year then 29 else 28
  else if month = 4 ∨ month = 6 ∨ month = 9 ∨ month = 11 then 30
  else 31

def ofNumbers? (year month day : Nat) : Option Day :=
  if 1 ≤ year ∧ year ≤ 9999 ∧ 1 ≤ month ∧ month ≤ 12 ∧ 1 ≤ day ∧
      day ≤ daysInMonth year month then
    some ⟨year, month, day⟩
  else none

def next (d : Day) : Day :=
  if d.day < daysInMonth d.year d.month then { d with day := d.day + 1 }
  else if d.month < 12 then ⟨d.year, d.month + 1, 1⟩
  else ⟨d.year + 1, 1, 1⟩

def addDays (d : Day) : Nat → Day
  | 0 => d
  | n + 1 => (d.addDays n).next

def isoChars (d : Day) : List Char :=
  Text.fixedDigits 4 d.year ++ '-' :: Text.fixedDigits 2 d.month ++ '-' :: Text.fixedDigits 2 d.day

def isoText (d : Day) : String := String.ofList d.isoChars

end Day

/-- A moment on a day, with the offset from universal time in seconds if it is known. -/
structure Timestamp where
  date : Day
  hour : Nat
  minute : Nat
  second : Nat
  micro : Nat
  offset : Option Int
deriving DecidableEq, Repr

namespace Timestamp

def ofNumbers? (year month day hour minute second micro : Nat) (offset : Option Int) :
    Option Timestamp :=
  match Day.ofNumbers? year month day with
  | none => none
  | some date =>
    if hour < 24 ∧ minute < 60 ∧ second < 60 ∧ micro < 1000000 ∧
        offset.all (fun o => o.natAbs < 86400) then
      some ⟨date, hour, minute, second, micro, offset⟩
    else none

def ofDay (d : Day) : Timestamp := ⟨d, 0, 0, 0, 0, none⟩

def clockChars (t : Timestamp) : List Char :=
  Text.fixedDigits 2 t.hour ++ ':' :: Text.fixedDigits 2 t.minute ++ ':' ::
    Text.fixedDigits 2 t.second

def offsetChars (o : Int) : List Char :=
  let n := o.natAbs
  (if o < 0 then '-' else '+') ::
    (Text.fixedDigits 2 (n / 3600) ++ ':' :: Text.fixedDigits 2 (n / 60 % 60) ++
      if n % 60 = 0 then [] else ':' :: Text.fixedDigits 2 (n % 60))

/-- The form of answers: a `T` between day and clock, microseconds only where there are any. -/
def isoText (t : Timestamp) : String :=
  String.ofList <|
    t.date.isoChars ++ 'T' :: t.clockChars ++
      (if t.micro = 0 then [] else '.' :: Text.fixedDigits 6 t.micro) ++
      (match t.offset with
        | none => []
        | some o => offsetChars o)

/-- The form of the store: a space between day and clock, microseconds always, no offset. -/
def storedText (t : Timestamp) : String :=
  String.ofList <|
    t.date.isoChars ++ ' ' :: t.clockChars ++ '.' :: Text.fixedDigits 6 t.micro

def secondOfDay (t : Timestamp) : Nat := t.hour * 3600 + t.minute * 60 + t.second

def fields (t : Timestamp) : List Nat :=
  [t.date.year, t.date.month, t.date.day, t.hour, t.minute, t.second, t.micro]

def isBefore (a b : Timestamp) : Bool := decide (a.fields < b.fields)

def addDays (t : Timestamp) (n : Nat) : Timestamp := { t with date := t.date.addDays n }

end Timestamp

namespace IsoReader

def fixed? : Nat → List Char → Option (Nat × List Char)
  | 0, cs => some (0, cs)
  | _ + 1, [] => none
  | width + 1, c :: rest =>
    match Numeral.asciiDigit? c, fixed? width rest with
    | some d, some (n, tail) => some (d * tenTo width + n, tail)
    | _, _ => none

def skip? (expected : Char) : List Char → Option (List Char)
  | [] => none
  | c :: rest => if c = expected then some rest else none

def day? (cs : List Char) : Option (Day × List Char) := do
  let (y, cs) ← fixed? 4 cs
  let cs ← skip? '-' cs
  let (m, cs) ← fixed? 2 cs
  let cs ← skip? '-' cs
  let (d, cs) ← fixed? 2 cs
  let day ← Day.ofNumbers? y m d
  some (day, cs)

def microOfFraction (ds : List Nat) : Nat :=
  Numeral.ofDigits ((ds ++ List.replicate 6 0).take 6)

def fraction (cs : List Char) : Nat × List Char :=
  match cs with
  | '.' :: rest =>
    let (ds, rest) := Numeral.digits Numeral.plain rest
    (microOfFraction ds, rest)
  | _ => (0, cs)

def offset? : List Char → Option (Option Int)
  | [] => some none
  | ['Z'] => some (some 0)
  | sign :: cs =>
    if sign = '+' ∨ sign = '-' then do
      let (h, cs) ← fixed? 2 cs
      let cs ← skip? ':' cs
      let (m, cs) ← fixed? 2 cs
      let s ← match cs with
        | [] => some 0
        | ':' :: cs => (fixed? 2 cs).bind fun (s, rest) => if rest.isEmpty then some s else none
        | _ => none
      let n : Int := h * 3600 + m * 60 + s
      some (some (if sign = '-' then -n else n))
    else none

def timestamp? (cs : List Char) : Option Timestamp := do
  let (day, cs) ← day? cs
  match cs with
  | [] => some (Timestamp.ofDay day)
  | separator :: cs =>
    if separator = 'T' ∨ separator = ' ' then
      let (h, cs) ← fixed? 2 cs
      let cs ← skip? ':' cs
      let (mi, cs) ← fixed? 2 cs
      let (s, cs) ← match cs with
        | ':' :: cs => fixed? 2 cs
        | _ => some (0, cs)
      let (micro, cs) := fraction cs
      let offset ← offset? cs
      Timestamp.ofNumbers? day.year day.month day.day h mi s micro offset
    else none

end IsoReader

/-- A length of time: whole days, and the seconds and microseconds of a further day. -/
structure Span where
  days : Int
  seconds : Nat
  micro : Nat
deriving DecidableEq, Repr

namespace Span

/-- A length of time from any numbers of its units, carried into the ranges of the fields. -/
def ofUnits (days seconds micros : Int) : Span :=
  let s := seconds + micros.fdiv 1000000
  ⟨days + s.fdiv 86400, (s.fmod 86400).toNat, (micros.fmod 1000000).toNat⟩

/-- Days in words, then hours without a leading zero, minutes, seconds and any microseconds. -/
def text (s : Span) : String :=
  let plural := if s.days.natAbs = 1 then "" else "s"
  let days := if s.days = 0 then "" else toString s.days ++ " day" ++ plural ++ ", "
  days ++ toString (s.seconds / 3600) ++ ":" ++
    String.ofList (Text.fixedDigits 2 (s.seconds / 60 % 60)) ++ ":" ++
    String.ofList (Text.fixedDigits 2 (s.seconds % 60)) ++
    (if s.micro = 0 then "" else "." ++ String.ofList (Text.fixedDigits 6 s.micro))

end Span

end QueryGate
