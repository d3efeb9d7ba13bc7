import QueryGate.Text.Basic
import QueryGate.Text.Utf16
import QueryGate.Value.Basic

/-!
# Reading JSON documents

The reader takes strict JSON and three extensions: the numbers `NaN`, `Infinity` and `-Infinity`.
Of a repeated key the last value counts, at the place of the first. Nesting is limited. A
complaint comes with the rest of the text at which it arose, so that its position is known.

Texts are sequences of Unicode characters. An escape for half a surrogate pair that stands alone is
read as the replacement character, so that keys which differ in such an escape only are one key.
-/

set_option autoImplicit false

namespace QueryGate.Json

inductive Complaint where
  | byteOrderMark
  | expectedValue
  | expectedKey
  | expectedColon
  | expectedComma
  | extraData
  | controlCharacter
  | unterminated
  | badEscape
  | badUnicodeEscape
  | tooManyDigits
  | tooDeep (inArray : Bool)
deriving DecidableEq, Repr

structure Fault where
  complaint : Complaint
  rest : List Char
deriving DecidableEq, Repr

abbrev Reading (α : Type) := Except Fault (α × List Char)

def isBlank (c : Char) : Bool := c == ' ' || c == '\t' || c == '\n' || c == '\r'

def skipBlanks (cs : List Char) : List Char := cs.dropWhile isBlank

def shortEscape? (c : Char) : Option Char :=
  if c = '"' ∨ c = '\\' ∨ c = '/' then some c
  else if c = 'b' then some '\x08'
  else if c = 'f' then some '\x0c'
  else if c = 'n' then some '\n'
  else if c = 'r' then some '\r'
  else if c = 't' then some '\t'
  else none

def lowHalf (cs : List Char) : Except Fault (Option (Nat × List Char)) :=
  match cs with
  | '\\' :: 'u' :: a :: b :: c :: d :: rest =>
    if rest.isEmpty then .ok none
    else
      match Text.hexNumber? [a, b, c, d] with
      | none => .error ⟨.badUnicodeEscape, cs.drop 1⟩
      | some n => .ok (if isLowSurrogate n then some (n, rest) else none)
  | _ => .ok none

def unicodeEscape (cs : List Char) : Reading Char :=
  match cs with
  | _ :: a :: b :: c :: d :: rest =>
    if rest.isEmpty then .error ⟨.badUnicodeEscape, cs⟩
    else
      match Text.hexNumber? [a, b, c, d] with
      | none => .error ⟨.badUnicodeEscape, cs⟩
      | some n =>
        if isHighSurrogate n then
          match lowHalf rest with
          | .error f => .error f
          | .ok (some (m, rest)) =>
            .ok (pairChar n m, rest)
          | .ok none => .ok (unitChar n, rest)
        else .ok (unitChar n, rest)
  | _ => .error ⟨.badUnicodeEscape, cs⟩

/-- The characters up to the closing quotation mark. Every step takes at least one character, so
as much fuel as characters suffices; `start` is the text from the opening quotation mark. -/
def readChars (start : List Char) : Nat → List Char → Reading (List Char)
  | 0, _ => .error ⟨.unterminated, start⟩
  | _ + 1, [] => .error ⟨.unterminated, start⟩
  | fuel + 1, c :: rest =>
    if c = '"' then .ok ([], rest)
    else if c = '\\' then
      match rest with
      | [] => .error ⟨.unterminated, start⟩
      | e :: rest' =>
        if e = 'u' then
          match unicodeEscape rest with
          | .error f => .error f
          | .ok (x, tail) => cons x (readChars start fuel tail)
        else
          match shortEscape? e with
          | none => .error ⟨.badEscape, c :: rest⟩
          | some x => cons x (readChars start fuel rest')
    else if c.toNat < 0x20 then .error ⟨.controlCharacter, c :: rest⟩
    else cons c (readChars start fuel rest)
where
  cons (x : Char) (reading : Reading (List Char)) : Reading (List Char) :=
    reading.map fun (xs, rest) => (x :: xs, rest)

def readString (rest : List Char) : Reading String :=
  (readChars ('"' :: rest) (rest.length + 1) rest).map fun (cs, rest) => (String.ofList cs, rest)

def digits (cs : List Char) : List Nat × List Char := Numeral.digits Numeral.plain cs

def fraction (cs : List Char) : List Nat × List Char :=
  match cs with
  | '.' :: rest =>
    match digits rest with
    | ([], _) => ([], cs)
    | found => found
  | _ => ([], cs)

/-- The exponent at the front: `e`, an optional sign and at least one digit, or nothing. -/
def exponent (cs : List Char) : Option Int × List Char :=
  match cs with
  | e :: rest =>
    if e = 'e' ∨ e = 'E' then
      let (negative, rest) := Numeral.sign rest
      match digits rest with
      | ([], _) => (none, cs)
      | (ds, rest) =>
        let n : Int := Numeral.ofDigits ds
        (some (if negative then -n else n), rest)
    else (none, cs)
  | [] => (none, cs)

def wholePart (cs : List Char) : List Nat × List Char :=
  match cs with
  | '0' :: rest => ([0], rest)
  | _ => digits cs

def readNumber (cs : List Char) : Reading Value :=
  let (negative, unsigned) :=
    match cs with
    | '-' :: rest => (true, rest)
    | _ => (false, cs)
  match wholePart unsigned with
  | ([], _) => .error ⟨.expectedValue, cs⟩
  | (whole, afterWhole) =>
    let (part, afterPart) := fraction afterWhole
    let (power, afterPower) := exponent afterPart
    if part.isEmpty && power.isNone then
      if maxWholeDigits < whole.length then .error ⟨.tooManyDigits, cs⟩
      else
        let n : Int := Numeral.ofDigits whole
        .ok (.int (if negative then -n else n), afterWhole)
    else
      let x : Numeral :=
        ⟨negative, Numeral.ofDigits (whole ++ part), power.getD 0 - part.length⟩
      .ok (.float (Binary64.ofNumeral x), afterPower)

def words : List (List Char × Value) :=
  [("null".toList, .null), ("true".toList, .bool true), ("false".toList, .bool false),
   ("NaN".toList, .float .nan), ("Infinity".toList, .float (.infinite false)),
   ("-Infinity".toList, .float (.infinite true))]

def readAtom (cs : List Char) : Reading Value :=
  match words.findSome? fun (word, v) => (word.isPrefixOf? cs).map fun rest => (v, rest) with
  | some found => .ok found
  | none => readNumber cs

def readItems (item : List Char → Reading Value) : Nat → List Char → Reading (List Value)
  | 0, cs => .error ⟨.expectedValue, cs⟩
  | fuel + 1, cs =>
    match item cs with
    | .error f => .error f
    | .ok (v, rest) =>
      match skipBlanks rest with
      | ']' :: rest => .ok ([v], rest)
      | ',' :: rest =>
        (readItems item fuel (skipBlanks rest)).map fun (vs, rest) => (v :: vs, rest)
      | rest => .error ⟨.expectedComma, rest⟩

def readMembers (item : List Char → Reading Value) :
    Nat → List Char → Reading (List (String × Value))
  | 0, cs => .error ⟨.expectedKey, cs⟩
  | fuel + 1, cs =>
    match cs with
    | '"' :: rest =>
      match readString rest with
      | .error f => .error f
      | .ok (key, rest) =>
        match skipBlanks rest with
        | ':' :: rest =>
          match item (skipBlanks rest) with
          | .error f => .error f
          | .ok (v, rest) =>
            match skipBlanks rest with
            | '}' :: rest => .ok ([(key, v)], rest)
            | ',' :: rest =>
              (readMembers item fuel (skipBlanks rest)).map fun (ms, rest) =>
                ((key, v) :: ms, rest)
            | rest => .error ⟨.expectedComma, rest⟩
        | rest => .error ⟨.expectedColon, rest⟩
    | _ => .error ⟨.expectedKey, cs⟩

/-- A value at the front of the text, with at most so many lists and objects around each other. -/
def readValue : Nat → List Char → Reading Value
  | depth, '"' :: rest =>
    let _ := depth
    (readString rest).map fun (s, rest) => (.text s, rest)
  | 0, '[' :: rest => .error ⟨.tooDeep true, '[' :: rest⟩
  | 0, '{' :: rest => .error ⟨.tooDeep false, '{' :: rest⟩
  | depth + 1, '[' :: rest =>
    match skipBlanks rest with
    | ']' :: rest => .ok (.list [], rest)
    | rest => (readItems (readValue depth) (rest.length + 1) rest).map fun (vs, rest) =>
        (.list vs, rest)
  | depth + 1, '{' :: rest =>
    match skipBlanks rest with
    | '}' :: rest => .ok (.object [], rest)
    | rest => (readMembers (readValue depth) (rest.length + 1) rest).map fun (ms, rest) =>
        (.object (Assoc.ofPairs ms), rest)
  | _, cs => readAtom cs

def nestingLimit : Nat := 1000

def readAll (cs : List Char) : Except Fault Value :=
  match readValue nestingLimit (skipBlanks cs) with
  | .error f => .error f
  | .ok (v, rest) =>
    match skipBlanks rest with
    | [] => .ok v
    | rest => .error ⟨.extraData, rest⟩

def byteOrderMark : Char := '\ufeff'

def read (s : String) : Except Fault Value :=
  match s.toList with
  | c :: rest =>
    if c = byteOrderMark then .error ⟨.byteOrderMark, c :: rest⟩ else readAll (c :: rest)
  | [] => readAll []

def Fault.position (f : Fault) (cs : List Char) : Nat := cs.length - f.rest.length

/-- A fault that makes the text no document, as opposed to one that exhausts the reader. -/
def Fault.isMalformed (f : Fault) : Bool :=
  match f.complaint with
  | .tooDeep _ => false
  | _ => true

end QueryGate.Json
