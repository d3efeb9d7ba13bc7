import QueryGate.Error
import QueryGate.Text.Case

/-!
# Failures by cause

What can go wrong anywhere in the service. A `Failure.query` is meant for callers; all others are
told apart here by their cause, and `Failure.message` is their text in the log.
-/

set_option autoImplicit false

namespace QueryGate

/-- A step into a value: a member of an object or an item of a list. -/
inductive Step where
  | key (name : String)
  | index (n : Nat)
deriving DecidableEq, Repr

structure Detail where
  location : List Step
  kind : String
deriving DecidableEq, Repr

/-- The failures of the service, one constructor per cause. -/
inductive Failure where
  | query (error : QueryError)
  | invalid (details : List Detail)
  | danglingRelation (table relation target : Value)
  | badDefaultLimit (limit greatest : Int)
  | keyNotSet (setting : String)
  | packageMissing (package : String)
  | unsupportedProvider (name : String)
  | undeclaredTable
  | unreadableName
  | nameNotText
  | replyNotText
  | unwritable
  | missingKey (key : Value)
  | noMember (kind name : String)
  | wrongKind (message : String)
  | badValue (message : String)
  | outOfRange (isText : Bool)
  | tooLarge (message : String)
  | tooDeep (message : String)
  | malformedReply (message : String)
  | undecodable (message : String)
  | unencodable (message : String)
  | unmarkedText (family : String)
  | badCoding (message : String)
  | unreadableUrl (message : String)
  | unreadableText
  | unscannable
  | unparsable
  | unbuildable
  | unbindable
  | unreadableDecimal
  | unsupportedParameter
  | ambiguousColumn
  | store (message : String)
  | integrity
  | frozen
  | unknownDialect
  | driverMissing
  | unreadableAddress
  | interrupted (message : String)
  | drawLimit

namespace Failure

def message : Failure → String
  | .query e => e.message
  | .invalid _ => "invalid"
  | .danglingRelation table relation target =>
    "Relation '" ++ table.shown ++ "." ++ relation.shown ++ "' points at unknown table '" ++
      target.shown ++ "'"
  | .badDefaultLimit limit greatest =>
    "Default limit " ++ toString limit ++ " must be within 1.." ++ toString greatest
  | .keyNotSet setting =>
    setting ++ " is not set.  Set " ++ String.ofList (setting.toList.map Text.asciiUpper) ++
      " in your .env file or environment."
  | .packageMissing package =>
    "The '" ++ package ++ "' package is not installed.  Run: pip install " ++ package
  | .unsupportedProvider name =>
    "LLM provider '" ++ name ++ "' is not supported.  " ++
      "Choose from: mock, ollama, gemini, openai, anthropic"
  | .missingKey key => key.quoted
  | .noMember kind name => "'" ++ kind ++ "' object has no attribute '" ++ name ++ "'"
  | .wrongKind text | .badValue text | .tooLarge text | .tooDeep text | .malformedReply text => text
  | .outOfRange isText => (if isText then "string" else "list") ++ " index out of range"
  | .undecodable text | .unencodable text | .badCoding text | .unreadableUrl text => text
  | .unmarkedText family => family ++ " stream does not start with BOM"
  | .store text | .interrupted text => text
  | .undeclaredTable | .unreadableName | .nameNotText | .replyNotText | .unwritable
  | .unreadableText | .unscannable | .unparsable | .unbuildable | .unbindable
  | .unreadableDecimal | .unsupportedParameter | .ambiguousColumn | .integrity | .frozen
  | .unknownDialect | .driverMissing | .unreadableAddress | .drawLimit => ""

def notSubscriptable (v : Value) : Failure :=
  .wrongKind ("'" ++ v.kindName ++ "' object is not subscriptable")

def notIterable (v : Value) : Failure :=
  .wrongKind ("'" ++ v.kindName ++ "' object is not iterable")

/-- A text with characters that are not ASCII, where only ASCII can be written. The first run of
such characters is named. -/
def notAscii (text : String) : Failure :=
  let before := (text.toList.takeWhile (·.toNat < 0x80)).length
  let run := (text.toList.drop before).takeWhile (0x80 ≤ ·.toNat)
  let place := match run with
    | [c] => "character '" ++ escaped c ++ "' in position " ++ toString before
    | _ => "characters in position " ++ toString before ++ "-" ++
        toString (before + run.length - 1)
  .unencodable ("'ascii' codec can't encode " ++ place ++ ": ordinal not in range(128)")
where
  escaped (c : Char) : String :=
    String.ofList <| '\\' ::
      if c.toNat < 0x100 then 'x' :: Text.hexDigits 2 c.toNat
      else if c.toNat < 0x10000 then 'u' :: Text.hexDigits 4 c.toNat
      else 'U' :: Text.hexDigits 8 c.toNat

def unhashable (v : Value) : Failure := .wrongKind ("no key is of kind '" ++ v.kindName ++ "'")

end Failure

abbrev Attempt (α : Type) := Except Failure α

end QueryGate
