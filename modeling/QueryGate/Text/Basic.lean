import QueryGate.Text.Class

/-!
# Text as lists of characters

Trimming, searching, cutting and padding. Positions and lengths count characters. Main statement:
`splitFirst_eq_some`, cutting at the first separator loses nothing.
-/

set_option autoImplicit false

namespace QueryGate.Text

def trimBy (drop : Char → Bool) (cs : List Char) : List Char :=
  ((cs.dropWhile drop).reverse.dropWhile drop).reverse

def trim (s : String) : String := String.ofList (trimBy isBlank s.toList)

def isAllBlank (s : String) : Bool := s.toList.all isBlank

def trimEnd (last : Char) (s : String) : String :=
  String.ofList ((s.toList.reverse.dropWhile (· == last)).reverse)

def findFrom? (pattern : List Char) : List Char → Nat → Option Nat
  | [], at' => if pattern.isPrefixOf [] then some at' else none
  | c :: rest, at' =>
    if pattern.isPrefixOf (c :: rest) then some at' else findFrom? pattern rest (at' + 1)

def find? (pattern text : List Char) : Option Nat := findFrom? pattern text 0

def occursIn (pattern text : List Char) : Bool := (find? pattern text).isSome

/-- Does any suffix of the list, the list itself and the empty one included, pass the test? -/
def anySuffix {α : Type} (test : List α → Bool) : List α → Bool
  | [] => test []
  | x :: rest => test (x :: rest) || anySuffix test rest

def replaceChar (c : Char) (replacement cs : List Char) : List Char :=
  cs.flatMap fun d => if d = c then replacement else [d]

def splitFirst (separator : Char) : List Char → Option (List Char × List Char)
  | [] => none
  | c :: rest =>
    if c = separator then some ([], rest)
    else (splitFirst separator rest).map fun (before, after) => (c :: before, after)

/-- The pieces between the occurrences of the separator, one more than there are occurrences. -/
def splitAll (separator : Char) : List Char → List (List Char)
  | [] => [[]]
  | c :: rest =>
    match splitAll separator rest with
    | first :: others => if c = separator then [] :: first :: others else (c :: first) :: others
    | [] => [[c]]

def afterLast (separator : Char) (cs : List Char) : List Char :=
  (cs.reverse.takeWhile (· ≠ separator)).reverse

/-- A number in decimal digits, with zeros in front up to the width; higher digits are cut. -/
def fixedDigits : Nat → Nat → List Char
  | 0, _ => []
  | width + 1, n => fixedDigits width (n / 10) ++ [Nat.digitChar (n % 10)]

def padRight (width : Nat) (s : String) : String :=
  s ++ String.ofList (List.replicate (width - s.length) ' ')

def padLeft (width : Nat) (s : String) : String :=
  String.ofList (List.replicate (width - s.length) ' ') ++ s

def truncate (limit : Int) (s : String) : String :=
  if (s.length : Int) ≤ limit then s
  else String.ofList (keepTo limit s.toList) ++ "..."
where
  keepTo (limit : Int) (cs : List Char) : List Char :=
    if 0 ≤ limit then cs.take limit.toNat else cs.take (cs.length - (-limit).toNat)

/-- Cutting at the first separator loses nothing, and no separator stands before the cut. -/
theorem splitFirst_eq_some {separator : Char} {cs before after : List Char}
    (h : splitFirst separator cs = some (before, after)) :
    cs = before ++ separator :: after ∧ separator ∉ before := by
  induction cs generalizing before with
  | nil => simp [splitFirst] at h
  | cons c rest ih =>
    unfold splitFirst at h
    split at h
    · rename_i hc
      simp only [Option.some.injEq, Prod.mk.injEq] at h
      obtain ⟨rfl, rfl⟩ := h
      simp [hc]
    · rename_i hc
      simp only [Option.map_eq_some_iff, Prod.exists, Prod.mk.injEq] at h
      obtain ⟨b, a, hs, rfl, rfl⟩ := h
      obtain ⟨hrest, hnot⟩ := ih hs
      exact ⟨by simp [hrest], by simp [hnot, Ne.symm hc]⟩

def hexDigits : Nat → Nat → List Char
  | 0, _ => []
  | width + 1, n => hexDigits width (n / 16) ++ [Nat.digitChar (n % 16)]

def hexValue? (c : Char) : Option Nat :=
  if '0' ≤ c ∧ c ≤ '9' then some (c.toNat - '0'.toNat)
  else if 'a' ≤ c ∧ c ≤ 'f' then some (c.toNat - 'a'.toNat + 10)
  else if 'A' ≤ c ∧ c ≤ 'F' then some (c.toNat - 'A'.toNat + 10)
  else none

def hexNumber? (cs : List Char) : Option Nat :=
  cs.foldlM (fun n c => (hexValue? c).map (16 * n + ·)) 0

end QueryGate.Text
