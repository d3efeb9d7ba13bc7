import QueryGate.Calendar
import QueryGate.Failure

/-!
# Random draws

A supply gives random numbers and made-up words, one draw after the other. Draws may run out; a
draw that fails leaves the supply where it is. `Supply.congruential` is a supply whose numbers
follow from a start by one multiplication and addition each; it has as many user names and as many
draws as it is given.
-/

set_option autoImplicit false

namespace QueryGate.Seed

/-- A computation that draws from a supply with states in `σ`. -/
abbrev Draw (σ α : Type) := ExceptT Failure (StateM σ) α

/-- Where draws come from. -/
structure Supply (σ : Type) where
  rounds : Nat
  number : Nat → Draw σ Nat
  threeInTen : Draw σ Bool
  userName : Draw σ String
  emailDomain : Draw σ String
  sentence : Nat → Draw σ String
  paragraph : Draw σ String
  catchPhrase : Draw σ String

namespace Supply

variable {σ : Type}

def pick {α : Type} (s : Supply σ) (items : List α) : Draw σ α :=
  match items with
  | [] => throw (.outOfRange false)
  | first :: rest => do
    let i ← s.number rest.length
    match (first :: rest)[i]? with
    | some x => pure x
    | none => throw (.outOfRange false)

def paragraphs (s : Supply σ) : Nat → Draw σ (List String)
  | 0 => pure []
  | n + 1 => do
    let p ← s.paragraph
    let ps ← s.paragraphs n
    pure (p :: ps)

def firstDay : Day := ⟨2024, 1, 1⟩

def dayRange : Nat := 730

def timestamp (s : Supply σ) : Draw σ Timestamp := do
  let days ← s.number dayRange
  let hour ← s.number 23
  let minute ← s.number 59
  let second ← s.number 59
  pure { (Timestamp.ofDay firstDay).addDays days with hour, minute, second }

end Supply

/-- The state of a congruential supply: the last number and how many were drawn. -/
structure Congruential where
  last : Nat
  drawn : Nat
deriving DecidableEq, Repr

namespace Congruential

def draw (limit : Nat) : Draw Congruential Nat := fun c =>
  if limit ≤ c.drawn then (.error .drawLimit, c)
  else
    let x := (1103515245 * c.last + 12345) % twoTo 31
    (.ok (x / twoTo 8), ⟨x, c.drawn + 1⟩)

def below (limit n : Nat) : Draw Congruential Nat := do
  let d ← draw limit
  pure (d % n)

def word (limit : Nat) (letter : String) (n : Nat) : Draw Congruential String := do
  let d ← below limit n
  pure (letter ++ toString d)

def domains : List String := ["a.com", "b.org", "c.net"]

end Congruential

/-- The supply of so many congruential numbers, with so many user names. The numbers run out before
the rounds do. -/
def Supply.congruential (limit names : Nat) : Supply Congruential where
  rounds := limit + 1
  number greatest := Congruential.below limit (greatest + 1)
  threeInTen := do
    let d ← Congruential.draw limit
    pure (10 * d < 3 * twoTo 23)
  userName := Congruential.word limit "user" names
  emailDomain := do
    let d ← Congruential.below limit 3
    pure (Congruential.domains[d]?.getD "")
  sentence words := do
    let start ← Congruential.word limit "S" 100
    let dots ← Congruential.below limit 4
    pure (start ++ " w" ++ toString words ++ String.ofList (List.replicate dots '.'))
  paragraph := Congruential.word limit "P" 100
  catchPhrase := Congruential.word limit "C" 100

end QueryGate.Seed
