import QueryGate.Text.Case
import QueryGate.Text.Basic
import QueryGate.Text.Utf8

/-!
# Percent-encoding

Text within addresses. A character outside the kept class is written as the bytes of its UTF-8
form, each as `%` and two hexadecimal digits. `Percent.decode` reads such bytes back; bytes that
are no UTF-8 become replacement characters.
-/

set_option autoImplicit false

namespace QueryGate.Percent

def byte (b : UInt8) : List Char := '%' :: (Text.hexDigits 2 b.toNat).map Text.asciiUpper

def encodeChar (keep : Char → Bool) (c : Char) : List Char :=
  if keep c then [c] else (String.utf8EncodeChar c).flatMap byte

def encode (keep : Char → Bool) (s : String) : String :=
  String.ofList (s.toList.flatMap (encodeChar keep))

def isAlphanumeric (c : Char) : Bool :=
  ('0' ≤ c && c ≤ '9') || ('A' ≤ c && c ≤ 'Z') || ('a' ≤ c && c ≤ 'z')

def isUnreserved (c : Char) : Bool := isAlphanumeric c || "-._~".toList.contains c

def encodeForm (s : String) : String :=
  String.ofList (s.toList.flatMap fun c => if c = ' ' then ['+'] else encodeChar isUnreserved c)

def byte? : List Char → Option (UInt8 × List Char)
  | '%' :: a :: b :: rest => (Text.hexNumber? [a, b]).map fun n => (UInt8.ofNat n, rest)
  | _ => none

def bytesFrom : Nat → List Char → List UInt8 × List Char
  | 0, cs => ([], cs)
  | fuel + 1, cs =>
    match byte? cs with
    | none => ([], cs)
    | some (b, rest) =>
      let (bs, tail) := bytesFrom fuel rest
      (b :: bs, tail)

/-- The text that a percent-encoded text stands for; as much fuel as characters suffices. -/
def decodeChars : Nat → List Char → List Char
  | 0, cs => cs
  | _ + 1, [] => []
  | fuel + 1, c :: rest =>
    match bytesFrom (rest.length + 1) (c :: rest) with
    | ([], _) => c :: decodeChars fuel rest
    | (bs, tail) => (Utf8.decode bs).lenient ++ decodeChars fuel tail

def decode (s : String) : String := String.ofList (decodeChars s.length s.toList)

end QueryGate.Percent
