import QueryGate.Text.Decoded

/-!
# UTF-8

Text as bytes and back. A sequence that breaks off or starts with a byte that none can start with
is a flaw; reading goes on at the next byte. Main statement: `decodeFrom_ascii`, bytes of the ASCII
range are read as themselves.
-/

set_option autoImplicit false

namespace QueryGate.Utf8

def encode (s : String) : List UInt8 := s.toList.flatMap String.utf8EncodeChar

/-- A sequence that has started: where, how many bytes it still needs, the bounds of the next one,
and the number so far. -/
structure Pending where
  start : Nat
  missing : Nat
  least : Nat
  greatest : Nat
  value : Nat
deriving DecidableEq, Repr

def lead (start b : Nat) : Decoded × Option Pending :=
  if b < 0x80 then ([.ok (Char.ofNat b)], none)
  else if 0xC2 ≤ b ∧ b ≤ 0xDF then ([], some ⟨start, 1, 0x80, 0xBF, b - 0xC0⟩)
  else if b = 0xE0 then ([], some ⟨start, 2, 0xA0, 0xBF, 0⟩)
  else if b = 0xED then ([], some ⟨start, 2, 0x80, 0x9F, 0xD⟩)
  else if 0xE1 ≤ b ∧ b ≤ 0xEF then ([], some ⟨start, 2, 0x80, 0xBF, b - 0xE0⟩)
  else if b = 0xF0 then ([], some ⟨start, 3, 0x90, 0xBF, 0⟩)
  else if b = 0xF4 then ([], some ⟨start, 3, 0x80, 0x8F, 4⟩)
  else if 0xF1 ≤ b ∧ b ≤ 0xF3 then ([], some ⟨start, 3, 0x80, 0xBF, b - 0xF0⟩)
  else ([.error ⟨start, start + 1, "invalid start byte"⟩], none)

def step (position b : Nat) : Option Pending → Decoded × Option Pending
  | none => lead position b
  | some p =>
    if p.least ≤ b ∧ b ≤ p.greatest then
      let value := 64 * p.value + (b - 0x80)
      if p.missing ≤ 1 then ([.ok (Char.ofNat value)], none)
      else ([], some ⟨p.start, p.missing - 1, 0x80, 0xBF, value⟩)
    else
      let (found, pending) := lead position b
      (.error ⟨p.start, position, "invalid continuation byte"⟩ :: found, pending)

def decodeFrom (position : Nat) : Option Pending → List UInt8 → Decoded
  | none, [] => []
  | some p, [] => [.error ⟨p.start, position, "unexpected end of data"⟩]
  | pending, b :: rest =>
    let (found, pending) := step position b.toNat pending
    found ++ decodeFrom (position + 1) pending rest

def decode (bytes : List UInt8) : Decoded := decodeFrom 0 none bytes

theorem decodeFrom_ascii {bytes : List UInt8} (h : ∀ b ∈ bytes, b.toNat < 0x80) (position : Nat) :
    decodeFrom position none bytes = bytes.map fun b => .ok (Char.ofNat b.toNat) := by
  induction bytes generalizing position with
  | nil => rfl
  | cons b rest ih =>
    have hb : b.toNat < 0x80 := h b (by simp)
    have hrest : ∀ x ∈ rest, x.toNat < 0x80 := fun x hx => h x (by simp [hx])
    simp [decodeFrom, step, lead, hb, ih hrest]

end QueryGate.Utf8
