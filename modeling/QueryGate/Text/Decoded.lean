import QueryGate.Text.Basic

/-!
# Decoded bytes

Decoding a byte sequence gives characters and, where bytes make no character, flaws. A lenient
reader replaces every flaw, a strict one fails at the first.
-/

set_option autoImplicit false

namespace QueryGate

/-- Bytes that make no character: the positions from `start` up to `stop`, and the reason. -/
structure Flaw where
  start : Nat
  stop : Nat
  reason : String
deriving DecidableEq, Repr

abbrev Decoded := List (Except Flaw Char)

namespace Decoded

def lenient (d : Decoded) : List Char :=
  d.map fun
    | .ok c => c
    | .error _ => '\ufffd'

def strict : Decoded → Except Flaw (List Char)
  | [] => .ok []
  | .error f :: _ => .error f
  | .ok c :: rest => (strict rest).map (c :: ·)

end Decoded

namespace Flaw

def message (f : Flaw) (encoding : String) (bytes : List UInt8) : String :=
  let place :=
    if f.stop = f.start + 1 then
      "byte 0x" ++ String.ofList (Text.hexDigits 2 ((bytes[f.start]?).getD 0).toNat) ++
        " in position " ++ toString f.start
    else "bytes in position " ++ toString f.start ++ "-" ++ toString (f.stop - 1)
  "'" ++ encoding ++ "' codec can't decode " ++ place ++ ": " ++ f.reason

end Flaw

end QueryGate
