import QueryGate.Json.Document
import QueryGate.Text.Encoding

/-!
# Documents in bodies

A body is a row of bytes. Its first bytes show its encoding, since a document starts with a
character of ASCII: a byte order mark, or where the zeros stand that wider code units have.
Main definitions: `Json.readBody` and `Json.body`.
-/

set_option autoImplicit false

namespace QueryGate.Json

/-- What is wrong with a body: its bytes are no text, or the text is no document. -/
inductive BodyFault where
  | undecodable (encoding : Encoding) (flaw : Flaw)
  | unreadable (fault : Fault) (text : List Char)

def unmarkedEncoding : List UInt8 → Encoding
  | [0, _] => .utf16 (some .big)
  | [_, 0] => .utf16 (some .little)
  | 0 :: 0 :: _ :: _ :: _ => .utf32 (some .big)
  | 0 :: _ :: _ :: _ :: _ => .utf16 (some .big)
  | _ :: 0 :: 0 :: 0 :: _ => .utf32 (some .little)
  | _ :: 0 :: _ :: _ :: _ => .utf16 (some .little)
  | _ => .utf8

def bodyEncoding (bytes : List UInt8) : Encoding :=
  if (Encoding.markedOrder? 4 bytes).isSome then .utf32 none
  else if (Encoding.markedOrder? 2 bytes).isSome then .utf16 none
  else if ([0xEF, 0xBB, 0xBF] : List UInt8).isPrefixOf bytes then .markedUtf8
  else unmarkedEncoding bytes

def readBody (bytes : List UInt8) : Except BodyFault Value :=
  let encoding := bodyEncoding bytes
  match (encoding.decoded bytes).strict with
  | .error flaw => .error (.undecodable encoding flaw)
  | .ok text => (readAll text).mapError (.unreadable · text)

namespace BodyFault

/-- A fault that makes the body no document, as opposed to one that exhausts the reader. -/
def isMalformed : BodyFault → Bool
  | .undecodable _ _ => true
  | .unreadable fault _ => fault.isMalformed

def toFailure (bytes : List UInt8) : BodyFault → Failure
  | .undecodable encoding flaw => .undecodable (flaw.message encoding.name bytes)
  | .unreadable fault text => fault.toFailure text

end BodyFault

def body (bytes : List UInt8) : Attempt Value := (readBody bytes).mapError (·.toFailure bytes)

end QueryGate.Json
