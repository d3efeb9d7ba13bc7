import QueryGate.Text.Basic
import QueryGate.Text.Case
import QueryGate.Text.Punycode
import QueryGate.Web.Domain.Composition
import QueryGate.Web.Domain.Table

/-!
# Domain names in ASCII

A domain name consists of labels. A label with characters outside ASCII is sent in Punycode behind
the mark `xn--`, if it follows the rules: its characters are valid where they stand, it is composed,
and letters of one direction go together. Main definition: `Domain.encode?`.
-/

set_option autoImplicit false

namespace QueryGate.Domain

def hyphensFit (label : List Char) : Bool :=
  label.head? != some '-' && label.getLast? != some '-' && (label.drop 2).take 2 != ['-', '-']

def endsInVirama (before : List Char) : Bool :=
  match before.getLast? with
  | some c => Composition.combiningClass c == 9
  | none => false

def joinsWith (kinds : List Joining) (cs : List Char) : Bool :=
  match (cs.map joining).find? (· != .transparent) with
  | some j => kinds.contains j
  | none => false

def fitsBetween (before : List Char) (c : Char) (after : List Char) : Bool :=
  let label := before ++ c :: after
  match c with
  | '\u200c' =>
    endsInVirama before ||
      (joinsWith [.left, .dual] before.reverse && joinsWith [.right, .dual] after)
  | '\u200d' => endsInVirama before
  | '\u00b7' => before.getLast? == some 'l' && after.head? == some 'l'
  | '\u0375' => after.head?.any isGreek
  | '\u05f3' | '\u05f4' => before.getLast?.any isHebrew
  | '\u30fb' => label.any isJapanese
  | c =>
    if isArabicDigit c then !label.any isEasternDigit
    else if isEasternDigit c then !label.any isArabicDigit
    else false

def areValid (before : List Char) : List Char → Bool
  | [] => true
  | c :: rest => (isValid c || fitsBetween before.reverse c rest) && areValid (c :: before) rest

def endsIn (directions : List Direction) (ds : List Direction) : Bool :=
  match ds.reverse.find? (· != .nonspacing) with
  | some d => directions.contains d
  | none => false

/-- Do characters of these directions go together in a label? Only a label with letters or numbers
that run to the left is asked. -/
def directionsFit (ds : List Direction) : Bool :=
  if !ds.any ([.right, .arabic, .arabicNumber].contains ·) then true
  else
    match ds.head? with
    | some .right | some .arabic =>
      ds.all (· != .left) && endsIn [.right, .arabic, .number, .arabicNumber] ds &&
        !(ds.contains .number && ds.contains .arabicNumber)
    | some .left =>
      ds.all ([.left, .number, .neutral, .nonspacing].contains ·) && endsIn [.left, .number] ds
    | _ => false

def isLabel (label : List Char) : Bool :=
  !label.isEmpty && label.length ≤ 254 && hyphensFit label && !label.head?.any isMark &&
    areValid [] label && Composition.isComposed label &&
    directionsFit (label.map direction)

def mark : List Char := "xn--".toList

/-- Does a label in ASCII follow the rules? Behind the mark, what the Punycode stands for has to. -/
def isAsciiLabel (label : List Char) : Bool :=
  match mark.isPrefixOf? (label.map Text.asciiLower) with
  | none => isLabel (label.map Text.asciiLower)
  | some code =>
    !code.isEmpty && code.getLast? != some '-' &&
      match Punycode.decode? code with
      | some decoded => isLabel decoded
      | none => false

def encodeLabel? (label : List Char) : Option (List Char) :=
  if label.all (·.toNat < 0x80) then
    if isAsciiLabel label && label.length ≤ 63 then some label else none
  else if isLabel label then
    let encoded := mark ++ Punycode.encode label
    if encoded.length ≤ 63 then some encoded else none
  else none

def isStop (c : Char) : Bool := "\u002e\u3002\uff0e\uff61".toList.contains c

/-- A domain name in ASCII, if its labels follow the rules and it is not too long. A full stop may
stand at its end. -/
def encode? (name : String) : Option String := do
  let labels := Text.splitAll '.' (name.toList.map fun c => if isStop c then '.' else c)
  let isRooted := labels.getLast? == some []
  if 254 < name.length ∨ labels == [[]] then none
  else
    let encoded ← (if isRooted then labels.dropLast else labels).mapM encodeLabel?
    let text := String.intercalate "." (encoded.map String.ofList)
    let text := if isRooted then text ++ "." else text
    if text.length ≤ (if isRooted then 254 else 253) then some text else none

end QueryGate.Domain
