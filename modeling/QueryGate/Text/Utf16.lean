import QueryGate.Text.Decoded

/-!
# UTF-16 and UTF-32

Characters beyond the first plane are pairs of surrogates in UTF-16. A surrogate that stands alone
is no character; it is read as the replacement character. Bytes that are left over at the end are
a flaw.
-/

set_option autoImplicit false

namespace QueryGate

def isHighSurrogate (n : Nat) : Bool := 0xD800 ≤ n && n ≤ 0xDBFF

def isLowSurrogate (n : Nat) : Bool := 0xDC00 ≤ n && n ≤ 0xDFFF

/-- The character of a code unit; half a surrogate pair becomes the replacement character. -/
def unitChar (n : Nat) : Char :=
  if isHighSurrogate n || isLowSurrogate n then '\ufffd' else Char.ofNat n

def pairChar (high low : Nat) : Char :=
  Char.ofNat (0x10000 + (high - 0xD800) * 0x400 + (low - 0xDC00))

inductive ByteOrder where
  | little
  | big
deriving DecidableEq, Repr

namespace ByteOrder

def number : ByteOrder → List UInt8 → Nat
  | .little, bytes => bytes.foldr (fun b n => 256 * n + b.toNat) 0
  | .big, bytes => bytes.foldl (fun n b => 256 * n + b.toNat) 0

def suffix : ByteOrder → String
  | .little => "le"
  | .big => "be"

end ByteOrder

def leftOver (position count : Nat) : Decoded :=
  if count = 0 then [] else [.error ⟨position, position + count, "truncated data"⟩]

namespace Utf16

def ofUnits : Option Nat → List Nat → List Char
  | none, [] => []
  | some _, [] => ['\ufffd']
  | none, u :: rest =>
    if isHighSurrogate u then ofUnits (some u) rest else unitChar u :: ofUnits none rest
  | some h, u :: rest =>
    if isLowSurrogate u then pairChar h u :: ofUnits none rest
    else if isHighSurrogate u then '\ufffd' :: ofUnits (some u) rest
    else '\ufffd' :: unitChar u :: ofUnits none rest

def units (order : ByteOrder) : List UInt8 → List Nat × Nat
  | a :: b :: rest =>
    let (us, left) := units order rest
    (order.number [a, b] :: us, left)
  | bytes => ([], bytes.length)

def decode (order : ByteOrder) (bytes : List UInt8) : Decoded :=
  let (us, left) := units order bytes
  (ofUnits none us).map .ok ++ leftOver (bytes.length - left) left

end Utf16

namespace Utf32

def decodeFrom (order : ByteOrder) (position : Nat) : List UInt8 → Decoded
  | a :: b :: c :: d :: rest =>
    let n := order.number [a, b, c, d]
    let found : Except Flaw Char :=
      if n ≤ 0x10FFFF then .ok (unitChar n)
      else .error ⟨position, position + 4, "code point not in range(0x110000)"⟩
    found :: decodeFrom order (position + 4) rest
  | bytes => leftOver position bytes.length

def decode (order : ByteOrder) (bytes : List UInt8) : Decoded := decodeFrom order 0 bytes

end Utf32

end QueryGate
