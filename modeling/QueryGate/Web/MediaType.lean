import QueryGate.Text.Basic
import QueryGate.Text.Case

/-!
# Parameters of media types

A media type such as `text/plain; charset="latin-1"` has parameters behind semicolons. The value of
one may stand in quotation marks, within which a semicolon is a plain character.
-/

set_option autoImplicit false

namespace QueryGate.MediaType

/-- The pieces between semicolons. `isOpen` tells that a quotation mark is open, `isEscaped` that
the character before is a backslash, which makes a quotation mark a plain character. -/
def pieces (isOpen isEscaped : Bool) : List Char → List (List Char)
  | [] => [[]]
  | c :: rest =>
    if c = ';' ∧ !isOpen then [] :: pieces false false rest
    else
      let isOpen := if c = '"' ∧ !isEscaped then !isOpen else isOpen
      match pieces isOpen (c == '\\') rest with
      | first :: others => (c :: first) :: others
      | [] => [[c]]

def singleBackslashes : List Char → List Char
  | '\\' :: '\\' :: rest => '\\' :: singleBackslashes rest
  | c :: rest => c :: singleBackslashes rest
  | [] => []

def plainQuotes : List Char → List Char
  | '\\' :: '"' :: rest => '"' :: plainQuotes rest
  | c :: rest => c :: plainQuotes rest
  | [] => []

def unquote (cs : List Char) : List Char :=
  let inner := (cs.drop 1).dropLast
  if cs.length < 2 then cs
  else if cs.head? == some '"' && cs.getLast? == some '"' then
    plainQuotes (singleBackslashes inner)
  else if cs.head? == some '<' && cs.getLast? == some '>' then inner
  else cs

def nameAndValue (piece : List Char) : List Char × List Char :=
  let (name, value) := (Text.splitFirst '=' piece).getD (piece, [])
  ((Text.trimBy Text.isBlank name).map Text.asciiLower,
    unquote (Text.trimBy Text.isBlank value))

def parameter? (name mediaType : String) : Option String :=
  ((pieces false false mediaType.toList).map nameAndValue).findSome? fun (n, value) =>
    if n = name.toList then some (String.ofList value) else none

def kind (mediaType : String) : String := String.ofList (mediaType.toList.takeWhile (· != ';'))

end QueryGate.MediaType
