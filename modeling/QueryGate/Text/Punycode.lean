/-!
# Punycode

Text in letters, digits and hyphens. The ASCII characters come first; behind a hyphen, the others
follow in the order of their code points, each as the distance from the one before it. Distances
are written in base 36 with digits whose weights adapt to the distances so far. Main statement:
`readDistance_distance`, a distance that is written is read back.
-/

set_option autoImplicit false

namespace QueryGate.Punycode

def digitChar (d : Nat) : Char :=
  if d < 26 then Char.ofNat ('a'.toNat + d) else Char.ofNat ('0'.toNat + (d - 26))

def digitValue? (c : Char) : Option Nat :=
  if 'a' ≤ c ∧ c ≤ 'z' then some (c.toNat - 'a'.toNat)
  else if 'A' ≤ c ∧ c ≤ 'Z' then some (c.toNat - 'A'.toNat)
  else if '0' ≤ c ∧ c ≤ '9' then some (c.toNat - '0'.toNat + 26)
  else none

def threshold (place bias : Nat) : Nat := min 26 (max 1 (place - bias))

/-- Divides by 35 as long as the distance is large; a step for each bit is more than enough. -/
def shrink : Nat → Nat → Nat → Nat × Nat
  | 0, delta, steps => (delta, steps)
  | fuel + 1, delta, steps =>
    if delta ≤ 455 then (delta, steps) else shrink fuel (delta / 35) (steps + 36)

def adapt (delta count : Nat) (isFirst : Bool) : Nat :=
  let delta := if isFirst then delta / 700 else delta / 2
  let delta := delta + delta / count
  let (delta, steps) := shrink delta delta 0
  steps + 36 * delta / (delta + 38)

def distance (bias place n : Nat) : List Char :=
  let t := threshold place bias
  if n < t then [digitChar n]
  else digitChar (t + (n - t) % (36 - t)) :: distance bias (place + 36) ((n - t) / (36 - t))
termination_by n
decreasing_by
  have : 1 ≤ threshold place bias := by unfold threshold; omega
  have := Nat.div_le_self (n - threshold place bias) (36 - threshold place bias)
  omega

structure Progress where
  output : List Char
  delta : Nat
  bias : Nat
  count : Nat

def pass (basic n : Nat) (p : Progress) (c : Char) : Progress :=
  if c.toNat < n then { p with delta := p.delta + 1 }
  else if c.toNat = n then
    { output := p.output ++ distance p.bias 36 p.delta, delta := 0,
      bias := adapt p.delta (p.count + 1) (p.count == basic), count := p.count + 1 }
  else p

def extend (cs : List Char) (basic : Nat) : List Nat → Nat → Progress → Progress
  | [], _, p => p
  | n :: rest, least, p =>
    let p := cs.foldl (pass basic n) { p with delta := p.delta + (n - least) * (p.count + 1) }
    extend cs basic rest (n + 1) { p with delta := p.delta + 1 }

def furtherPoints (cs : List Char) : List Nat :=
  (((cs.map Char.toNat).filter (0x80 ≤ ·)).mergeSort (· ≤ ·)).eraseDups

def encode (cs : List Char) : List Char :=
  let basic := cs.filter (·.toNat < 0x80)
  let further := (extend cs basic.length (furtherPoints cs) 0x80 ⟨[], 0, 72, basic.length⟩).output
  if basic.isEmpty then further else basic ++ '-' :: further

/-- The number that digits at the front write, and the rest; the weight grows with each digit. -/
def readDistance (bias : Nat) : Nat → Nat → List Char → Option (Nat × List Char)
  | _, _, [] => none
  | place, weight, c :: rest => do
    let d ← digitValue? c
    let t := threshold place bias
    if d < t then some (d * weight, rest)
    else
      let (higher, rest) ← readDistance bias (place + 36) (weight * (36 - t)) rest
      some (d * weight + higher, rest)

/-- Inserts the characters that the digits write into the text. Every character takes a digit, so
as much fuel as digits suffices. -/
def insertAll : Nat → Bool → Nat → Nat → Nat → List Char → List Char → Option (List Char)
  | _, _, _, _, _, text, [] => some text
  | 0, _, _, _, _, _, _ :: _ => none
  | fuel + 1, isFirst, bias, n, position, text, digits => do
    let (delta, rest) ← readDistance bias 36 1 digits
    let count := text.length + 1
    let n := n + (position + delta) / count
    let position := (position + delta) % count
    if n.isValidChar then
      insertAll fuel false (adapt delta count isFirst) n (position + 1)
        (text.insertIdx position (Char.ofNat n)) rest
    else none

def decode? (cs : List Char) : Option (List Char) :=
  let digits := (cs.reverse.takeWhile (· != '-')).reverse
  let basic := cs.take (cs.length - digits.length - 1)
  insertAll digits.length true 72 0x80 0 basic digits

theorem digitValue?_digitChar {d : Nat} (h : d < 36) : digitValue? (digitChar d) = some d := by
  have all : ∀ e ∈ List.range 36, digitValue? (digitChar e) = some e := by decide
  exact all d (List.mem_range.mpr h)

theorem threshold_bounds (place bias : Nat) :
    1 ≤ threshold place bias ∧ threshold place bias ≤ 26 := by
  unfold threshold
  omega

/-- A distance that is written is read back, with its weight, and nothing behind it is touched. -/
theorem readDistance_distance (bias place weight n : Nat) (rest : List Char) :
    readDistance bias place weight (distance bias place n ++ rest) = some (n * weight, rest) := by
  induction n using Nat.strongRecOn generalizing place weight with
  | _ n ih =>
    obtain ⟨low, high⟩ := threshold_bounds place bias
    rw [distance]
    split
    · rename_i small
      simp [readDistance, digitValue?_digitChar (d := n) (by omega), small]
    · rename_i large
      have rem : (n - threshold place bias) % (36 - threshold place bias) <
          36 - threshold place bias := Nat.mod_lt _ (by omega)
      have less : (n - threshold place bias) / (36 - threshold place bias) < n := by
        have := Nat.div_le_self (n - threshold place bias) (36 - threshold place bias)
        omega
      have split := Nat.mod_add_div (n - threshold place bias) (36 - threshold place bias)
      have whole : threshold place bias + (n - threshold place bias) %
          (36 - threshold place bias) + (36 - threshold place bias) *
          ((n - threshold place bias) / (36 - threshold place bias)) = n := by omega
      have value : (threshold place bias + (n - threshold place bias) %
          (36 - threshold place bias)) * weight +
          (n - threshold place bias) / (36 - threshold place bias) *
          (weight * (36 - threshold place bias)) = n * weight := by
        conv => rhs; rw [← whole]
        rw [Nat.add_mul (_ + _)]
        congr 1
        rw [Nat.mul_comm weight, ← Nat.mul_assoc, Nat.mul_comm (_ / _)]
      simp [readDistance, digitValue?_digitChar (by omega :
        threshold place bias + (n - threshold place bias) % (36 - threshold place bias) < 36),
        ih _ less, value, Nat.not_lt.mpr (Nat.le_add_right (threshold place bias) _)]

end QueryGate.Punycode
