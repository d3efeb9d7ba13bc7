import QueryGate.Text.Basic
import QueryGate.Yaml.Scalar

/-!
# Scalars and the space around them

`Place.skip` moves over spaces, comments and line breaks to where the next content stands; its
column decides to which block the content belongs. `Scalar.read?` reads a scalar of any style; one
that runs over several lines is folded.
-/

set_option autoImplicit false

namespace QueryGate.Yaml

def isBreak (c : Char) : Bool := c == '\n' || c == '\x85' || c == '\u2028' || c == '\u2029'

def isGap (c : Char) : Bool := c == ' ' || c == '\t' || isBreak c

def atGap (cs : List Char) : Bool := cs.head?.all isGap

def isForbidden (c : Char) : Bool :=
  let n := c.toNat
  !(n == 0x9 || n == 0xA || n == 0xD || (0x20 ≤ n && n ≤ 0x7E) || n == 0x85 ||
    (0xA0 ≤ n && n ≤ 0xFFFD) || 0x10000 ≤ n)

/-- Where content stands: the text from there, its column, and whether it is the first content of
its line. -/
structure Place where
  rest : List Char
  column : Nat
  first : Bool
deriving DecidableEq, Repr

def Place.skipFrom (comment first : Bool) (column : Nat) : List Char → Place
  | [] => ⟨[], column, first⟩
  | c :: rest =>
    if isBreak c then skipFrom false true 0 rest
    else if comment then skipFrom true first (column + 1) rest
    else if c = ' ' then skipFrom false first (column + 1) rest
    else if c = '#' then skipFrom true first (column + 1) rest
    else ⟨c :: rest, column, first⟩

def Place.skip (column : Nat) (cs : List Char) : Place := skipFrom false false column cs

/-- The space between two stretches of a scalar: what it becomes when it is folded, whether it holds
a line break, and where the next stretch would begin. -/
structure Fold where
  text : List Char
  crossed : Bool
  column : Nat
  rest : List Char

namespace Fold

/-- Further line breaks and the space around them; the column counts from the last break. -/
def breaksFrom (isSpace : Char → Bool) (column : Nat) :
    List Char → List Char × Nat × List Char
  | [] => ([], column, [])
  | c :: rest =>
    if isSpace c then breaksFrom isSpace (column + 1) rest
    else if isBreak c then
      let (found, column, tail) := breaksFrom isSpace 0 rest
      (normal c :: found, column, tail)
    else ([], column, c :: rest)
where
  normal (c : Char) : Char := if c = '\x85' then '\n' else c

def ofBreaks : List Char → List Char
  | [] => []
  | first :: others =>
    if first ≠ '\n' then first :: others else if others.isEmpty then [' '] else others

def read (isSpace : Char → Bool) (cs : List Char) : Fold :=
  let spaces := cs.takeWhile isSpace
  let after := cs.drop spaces.length
  if after.head?.any isBreak then
    let (breaks, column, rest) := breaksFrom isSpace 0 after
    ⟨ofBreaks breaks, true, column, rest⟩
  else ⟨spaces, false, spaces.length, after⟩

end Fold

/-- A scalar: its value, whether it stands on one line, and the text behind it. -/
structure Scalar where
  value : Value
  oneLine : Bool
  rest : List Char

namespace Scalar

def isFlowMark (c : Char) : Bool := c == ',' || c == '[' || c == ']' || c == '\x7b' || c == '\x7d'

def endsBefore (flow : Bool) (c : Char) (rest : List Char) : Bool :=
  isGap c || (c == ':' && (atGap rest || (flow && rest.head?.any isFlowMark))) ||
    (flow && (isFlowMark c || c == '?'))

def stretch (flow : Bool) : List Char → List Char × List Char
  | [] => ([], [])
  | c :: rest =>
    if endsBefore flow c rest then ([], c :: rest)
    else
      let (cs, tail) := stretch flow rest
      (c :: cs, tail)

/-- A plain scalar: stretches with folded space between them. A line that starts before the least
column does not belong to it. As much fuel as characters suffices. -/
def plainFrom (flow : Bool) (least : Nat) : Nat → List Char → List Char × Bool × List Char
  | 0, cs => ([], false, cs)
  | fuel + 1, cs =>
    let (piece, rest) := stretch flow cs
    let gap := Fold.read (· == ' ') rest
    if gap.text.isEmpty || gap.rest.head? == some '#' ||
        (!flow && gap.crossed && gap.column < least) then
      (piece, false, rest)
    else
      let (more, crossed, tail) := plainFrom flow least fuel gap.rest
      if more.isEmpty then (piece, false, rest)
      else (piece ++ gap.text ++ more, gap.crossed || crossed, tail)

def escapes : List (Char × Char) := [
  ('0', '\x00'), ('a', '\x07'), ('b', '\x08'), ('t', '\t'), ('\t', '\t'), ('n', '\n'),
  ('v', '\x0b'), ('f', '\x0c'), ('r', '\r'), ('e', '\x1b'), (' ', ' '), ('"', '"'), ('\\', '\\'),
  ('/', '/'), ('N', '\x85'), ('_', '\xa0'), ('L', '\u2028'), ('P', '\u2029')]

def numericEscapes : List (Char × Nat) := [('x', 2), ('u', 4), ('U', 8)]

def escape (cs : List Char) : Attempt (List Char × List Char) :=
  match cs with
  | [] => .error .unscannable
  | e :: rest =>
    if isBreak e then
      let (breaks, _, tail) := Fold.breaksFrom (fun c => c == ' ' || c == '\t') 0 rest
      .ok (breaks, tail)
    else
      match Assoc.get? e escapes, Assoc.get? e numericEscapes with
      | some c, _ => .ok ([c], rest)
      | none, some width =>
        match Text.hexNumber? (rest.take width) with
        | some n =>
          if width ≤ rest.length then .ok ([Char.ofNat n], rest.drop width)
          else .error .unscannable
        | none => .error .unscannable
      | none, none => .error .unscannable

/-- The characters up to the closing quotation mark, whether they run over lines, and the rest. As
much fuel as characters suffices. -/
def quotedFrom (mark : Char) : Nat → List Char → Attempt (List Char × Bool × List Char)
  | 0, _ => .error .unscannable
  | _ + 1, [] => .error .unscannable
  | fuel + 1, c :: rest =>
    if isGap c then
      let gap := Fold.read (fun c => c == ' ' || c == '\t') (c :: rest)
      (quotedFrom mark fuel gap.rest).map fun (cs, crossed, tail) =>
        (gap.text ++ cs, gap.crossed || crossed, tail)
    else if c = mark then
      if mark = '\'' ∧ rest.head? = some '\'' then
        (quotedFrom mark fuel (rest.drop 1)).map fun (cs, crossed, tail) =>
          ('\'' :: cs, crossed, tail)
      else .ok ([], false, rest)
    else if c = '\\' ∧ mark = '"' then do
      let (xs, tail) ← escape rest
      let (cs, crossed, tail) ← quotedFrom mark fuel tail
      .ok (xs ++ cs, crossed || rest.head?.any isBreak, tail)
    else
      (quotedFrom mark fuel rest).map fun (cs, crossed, tail) => (c :: cs, crossed, tail)

def isIndicator (c : Char) : Bool := "-?:,[]\x7b\x7d#&*!|>'\"%@\x60".toList.contains c

/-- Does a plain scalar start here? Three of the marks may start one if no space follows. -/
def startsPlain (flow : Bool) (c : Char) (rest : List Char) : Bool :=
  !isGap c && (!isIndicator c || (!atGap rest && (c == '-' || (!flow && (c == '?' || c == ':')))))

def read? (flow : Bool) (least : Nat) (cs : List Char) : Option (Attempt Scalar) :=
  match cs with
  | [] => none
  | c :: rest =>
    if c = '"' ∨ c = '\'' then
      some ((quotedFrom c (rest.length + 1) rest).map fun (text, crossed, tail) =>
        ⟨.text (String.ofList text), !crossed, tail⟩)
    else if startsPlain flow c rest then
      let (text, crossed, tail) := plainFrom flow least cs.length cs
      some ((plainValue text).map fun value => ⟨value, !crossed, tail⟩)
    else none

/-- What follows the colon that makes a scalar a key: it stands on the same line, and a space
follows it. -/
def afterColon? (s : Scalar) : Option (List Char) :=
  match s.rest.dropWhile (· == ' ') with
  | ':' :: rest => if atGap rest then some rest else none
  | _ => none

end Scalar

end QueryGate.Yaml
