import QueryGate.Failure
import QueryGate.Json.Printer
import QueryGate.Json.Reader

/-!
# Documents or the reason why there is none

`Json.document` reads a text. A text that is no document fails with the complaint and the line and
column where it arose.
-/

set_option autoImplicit false

namespace QueryGate.Json

def Complaint.message : Complaint → String
  | .byteOrderMark => "Unexpected UTF-8 BOM (decode using utf-8-sig)"
  | .expectedValue => "Expecting value"
  | .expectedKey => "Expecting property name enclosed in double quotes"
  | .expectedColon => "Expecting ':' delimiter"
  | .expectedComma => "Expecting ',' delimiter"
  | .extraData => "Extra data"
  | .controlCharacter => "Invalid control character at"
  | .unterminated => "Unterminated string starting at"
  | .badEscape => "Invalid \\escape: "
  | .badUnicodeEscape => "Invalid \\uXXXX escape"
  | .tooManyDigits => "Exceeds the limit (" ++ toString maxWholeDigits ++
      " digits) for integer string conversion"
  | .tooDeep inArray => "maximum recursion depth exceeded while decoding a JSON " ++
      (if inArray then "array" else "object") ++ " from a unicode string"

/-- Line, column and character at which a fault arose; lines and columns count from one. -/
def Fault.place (f : Fault) (cs : List Char) : String :=
  let before := cs.take (f.position cs)
  let column := (before.reverse.takeWhile (· ≠ '\n')).length + 1
  "line " ++ toString (before.count '\n' + 1) ++ " column " ++ toString column ++
    " (char " ++ toString before.length ++ ")"

def Fault.toFailure (f : Fault) (cs : List Char) : Failure :=
  let text := f.complaint.message
  match f.complaint with
  | .tooManyDigits => .badValue text
  | .tooDeep _ => .tooDeep text
  | _ => .malformedReply (text ++ ": " ++ f.place cs)

def document (s : String) : Attempt Value := (read s).mapError fun f => f.toFailure s.toList

end QueryGate.Json
