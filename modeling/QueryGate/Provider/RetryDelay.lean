import QueryGate.Failure
import QueryGate.Number.Binary64

/-!
# Retry delays

Providers say in text how long to wait, as in `13.5s`. The first numeral of the text counts: it is
read as a binary64 number and rounded up to whole seconds. A message can hold such a text behind
the key `"retryDelay"`.
-/

set_option autoImplicit false

namespace QueryGate.RetryDelay

def everyScript : Numeral.Alphabet := ⟨Text.digitValue?, false⟩

/-- The numeral at the front: digits, and a point with further digits behind it if it has any. -/
def numeralHere? (cs : List Char) : Option Numeral :=
  match Numeral.digits everyScript cs with
  | ([], _) => none
  | (whole, rest) =>
    let fraction := match rest with
      | '.' :: tail => (Numeral.digits everyScript tail).1
      | _ => []
    some ⟨false, Numeral.ofDigits (whole ++ fraction), -fraction.length⟩

def numeral? : List Char → Option Numeral
  | [] => none
  | c :: rest =>
    match numeralHere? (c :: rest) with
    | some n => some n
    | none => numeral? rest

def seconds (n : Numeral) : Attempt Int :=
  match (Binary64.ofNumeral n).ceil? with
  | some s => .ok s
  | none => .error (.tooLarge "cannot convert float infinity to integer")

def ofText (s : String) : Attempt (Option Int) :=
  match numeral? s.toList with
  | none => .ok none
  | some n => (seconds n).map some

def ofValue (v : Value) : Attempt (Option Int) :=
  match v with
  | .text s => ofText s
  | _ => .ok none

def quotedHere? (cs : List Char) : Option (List Char) := do
  let rest ← "\"retryDelay\"".toList.isPrefixOf? cs
  let rest ← [':'].isPrefixOf? (rest.dropWhile Text.isBlank)
  let rest ← ['"'].isPrefixOf? (rest.dropWhile Text.isBlank)
  let text := rest.takeWhile fun c => c != '"' && c != '\n'
  if (rest.drop text.length).head? == some '"' then some text else none

def quoted? : List Char → Option (List Char)
  | [] => none
  | c :: rest =>
    match quotedHere? (c :: rest) with
    | some text => some text
    | none => quoted? rest

/-- The seconds that a message asks to wait behind the key. -/
def ofMessage (message : String) : Attempt (Option Int) :=
  match quoted? message.toList with
  | none => .ok none
  | some text => ofText (String.ofList text)

end QueryGate.RetryDelay
