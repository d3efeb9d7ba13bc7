import QueryGate.Text.Class

/-!
# Phrases in questions

Two phrases ask for a filter: "by the author NAME" and "about WORDS". Both run to the end of the
question, where a closing quotation mark and one of `.`, `?` and `!` are left out. Letters are
compared without regard to case, and of several phrases the first counts.
-/

set_option autoImplicit false

namespace QueryGate.Phrase

/-- The small ASCII letter that a letter counts as, three letters of other blocks included. -/
def fold (c : Char) : Char :=
  if 'A' ≤ c ∧ c ≤ 'Z' then Char.ofNat (c.toNat + 32)
  else if c = 'ſ' then 's'
  else if c = 'İ' ∨ c = 'ı' then 'i'
  else if c = '\u212a' then 'k'
  else c

def word? : List Char → List Char → Option (List Char)
  | [], cs => some cs
  | _ :: _, [] => none
  | w :: ws, c :: cs => if fold c = w then word? ws cs else none

def anyWord? (words : List String) (cs : List Char) : Option (List Char) :=
  words.findSome? fun w => word? w.toList cs

def blanks? (cs : List Char) : Option (List Char) :=
  match cs with
  | c :: rest => if Text.isBlank c then some (rest.dropWhile Text.isBlank) else none
  | [] => none

def blankCuts : List Char → List (List Char)
  | [] => []
  | c :: rest => if Text.isBlank c then blankCuts rest ++ [rest] else []

def isQuote (c : Char) : Bool := c == '"' || c == '\''

def isStop (c : Char) : Bool := c == '.' || c == '?' || c == '!'

def skip (drop : Char → Bool) (cs : List Char) : List Char :=
  match cs with
  | c :: rest => if drop c then rest else cs
  | [] => []

/-- Nothing but a quotation mark, blanks, a stop and blanks, each of which may be missing. -/
def closes (cs : List Char) : Bool :=
  ((skip isStop ((skip isQuote cs).dropWhile Text.isBlank)).dropWhile Text.isBlank).isEmpty

/-- The shortest piece of allowed characters, one at least, behind which the question closes. -/
def piece? (allowed : Char → Bool) : List Char → Option (List Char)
  | [] => none
  | c :: rest =>
    if allowed c then
      if closes rest then some [c] else (piece? allowed rest).map (c :: ·)
    else none

/-- A piece behind blanks and perhaps a quotation mark. Should there be none, fewer blanks are
skipped. -/
def quotedPiece? (allowed : Char → Bool) (cs : List Char) : Option (List Char) :=
  (blankCuts cs).findSome? fun rest =>
    match piece? allowed (skip isQuote rest) with
    | some piece => some piece
    | none => piece? allowed rest

def authorHere? (cs : List Char) : Option (List Char) := do
  let cs ← anyWord? ["by", "from", "of"] cs
  let cs ← blanks? cs
  let cs := ((word? "the".toList cs).bind blanks?).getD cs
  let cs ← anyWord? ["author", "user", "writer"] cs
  quotedPiece? (· != '\n') cs

/-- "about", "titled", "mentioning" or "containing", and the words; they hold no quotation mark. -/
def contentHere? (cs : List Char) : Option (List Char) := do
  let cs ← anyWord? ["about", "titled", "mentioning", "containing"] cs
  quotedPiece? (!isQuote ·) cs

/-- The first phrase that starts at the beginning of a word; `inWord` says whether a character of a
word stands just before. -/
def searchFrom (phrase? : List Char → Option (List Char)) (inWord : Bool) :
    List Char → Option (List Char)
  | [] => none
  | c :: rest =>
    match if inWord then none else phrase? (c :: rest) with
    | some found => some found
    | none => searchFrom phrase? (Text.isWord c) rest

def author? (question : List Char) : Option (List Char) := searchFrom authorHere? false question

def content? (question : List Char) : Option (List Char) := searchFrom contentHere? false question

end QueryGate.Phrase
