/-!
# Inflating

A deflated sequence is a row of blocks, each of literal bytes and of copies from what came before
it. A block is stored as it is, or written in prefix codes that are fixed or come with the block.
A sequence that breaks off gives the bytes up to there; one that contradicts itself fails. Main
definitions: `Inflate.raw?` and `Inflate.wrapped?`.
-/

set_option autoImplicit false

namespace QueryGate

inductive InflateError where
  | blockType
  | storedLengths
  | tooManySymbols
  | codeLengths
  | lengthRepeat
  | noEndOfBlock
  | literalLengths
  | distances
  | literalCode
  | distanceCode
  | distanceTooFar
  | header
  | check
deriving DecidableEq, Repr

namespace InflateError

def message : InflateError → String
  | .blockType => "invalid block type"
  | .storedLengths => "invalid stored block lengths"
  | .tooManySymbols => "too many length or distance symbols"
  | .codeLengths => "invalid code lengths set"
  | .lengthRepeat => "invalid bit length repeat"
  | .noEndOfBlock => "invalid code -- missing end-of-block"
  | .literalLengths => "invalid literal/lengths set"
  | .distances => "invalid distances set"
  | .literalCode => "invalid literal/length code"
  | .distanceCode => "invalid distance code"
  | .distanceTooFar => "invalid distance too far back"
  | .header => "incorrect header check"
  | .check => "incorrect data check"

end InflateError

namespace Inflate

/-- Why reading stops before the end: there is nothing left, or it is wrong. -/
inductive Stop where
  | exhausted
  | wrong (e : InflateError)
deriving DecidableEq, Repr

abbrev Reading := StateT (List Bool) (Except Stop)

def byteBits (b : UInt8) : List Bool := (List.range 8).map b.toNat.testBit

def bit : Reading Bool
  | [] => .error .exhausted
  | b :: rest => .ok (b, rest)

def number : Nat → Reading Nat
  | 0 => pure 0
  | n + 1 => do
    let b ← bit
    let high ← number n
    return 2 * high + b.toNat

/-- A prefix code: how many symbols have codes of each length from one on, and the symbols in the
order of their codes. -/
structure Code where
  counts : List Nat
  symbols : List Nat
deriving DecidableEq, Repr

namespace Code

def symbolsOf (lengths : List Nat) (length : Nat) : List Nat :=
  lengths.zipIdx.filterMap fun (l, symbol) => if l = length then some symbol else none

/-- The code in which every symbol has a code of its length, none where the length is zero. -/
def ofLengths (lengths : List Nat) : Code :=
  let used := (List.range' 1 (max 1 (lengths.foldl max 0))).map (symbolsOf lengths)
  ⟨used.map List.length, used.flatten⟩

/-- The share of the codes of the greatest length that no symbol takes, from counts on; there is
none if symbols have more codes than there are. -/
def free? (left : Nat) : List Nat → Option Nat
  | [] => some left
  | count :: rest => if 2 * left < count then none else free? (2 * left - count) rest

/-- Every sequence of bits has a meaning, no two have one prefix; a code of a single symbol and an
empty one may be partial. -/
def isUsable (code : Code) (mayBePartial : Bool) : Bool :=
  code.symbols.isEmpty ||
    match free? 1 code.counts with
    | some left => left == 0 || (mayBePartial && code.counts.length == 1)
    | none => false

/-- Walks down the lengths: `value` is the code so far, `first` the first code of the length. -/
def walk : List Nat → Nat → Nat → List Nat → Reading (Option Nat)
  | [], _, _, _ => return none
  | count :: rest, value, first, symbols => do
    let b ← bit
    let value := 2 * value + b.toNat
    if value < first + count then return symbols[value - first]?
    else walk rest value (2 * (first + count)) (symbols.drop count)

def symbol? (code : Code) : Reading (Option Nat) := walk code.counts 0 0 code.symbols

end Code

def lengthSteps : List (Nat × Nat) := [
  (3, 0), (4, 0), (5, 0), (6, 0), (7, 0), (8, 0), (9, 0), (10, 0), (11, 1), (13, 1), (15, 1),
  (17, 1), (19, 2), (23, 2), (27, 2), (31, 2), (35, 3), (43, 3), (51, 3), (59, 3), (67, 4),
  (83, 4), (99, 4), (115, 4), (131, 5), (163, 5), (195, 5), (227, 5), (258, 0)]

def distanceSteps : List (Nat × Nat) := [
  (1, 0), (2, 0), (3, 0), (4, 0), (5, 1), (7, 1), (9, 2), (13, 2), (17, 3), (25, 3), (33, 4),
  (49, 4), (65, 5), (97, 5), (129, 6), (193, 6), (257, 7), (385, 7), (513, 8), (769, 8), (1025, 9),
  (1537, 9), (2049, 10), (3073, 10), (4097, 11), (6145, 11), (8193, 12), (12289, 12), (16385, 13),
  (24577, 13)]

inductive Item where
  | literal (b : UInt8)
  | endOfBlock
  | copy (length distance : Nat)
deriving DecidableEq, Repr

def stepped (steps : List (Nat × Nat)) (symbol : Option Nat) (e : InflateError) : Reading Nat :=
  match symbol.bind (steps[·]?) with
  | none => throw (.wrong e)
  | some (least, extra) => return least + (← number extra)

def item (literals distances : Code) : Reading Item := do
  match ← literals.symbol? with
  | none => throw (.wrong .literalCode)
  | some s =>
    if s < 256 then return .literal (UInt8.ofNat s)
    else if s = 256 then return .endOfBlock
    else
      let length ← stepped lengthSteps (some (s - 257)) .literalCode
      let symbol ← distances.symbol?
      let distance ← stepped distanceSteps symbol .distanceCode
      return .copy length distance

/-- The output, last byte first, with so many bytes from the distance copied one after the
other. -/
def copied (distance : Nat) : Nat → List UInt8 → List UInt8
  | 0, output => output
  | n + 1, output => copied distance n ((output[distance - 1]?).getD 0 :: output)

/-- How far inflating has come; the last byte of the output comes first. -/
inductive Progress where
  | open (bits : List Bool) (output : List UInt8)
  | ended (output : List UInt8)
  | failed (e : InflateError)

def Progress.after {α : Type} (output : List UInt8) (bits : List Bool) (reading : Reading α)
    (next : α → List Bool → Progress) : Progress :=
  match reading bits with
  | .ok (x, bits) => next x bits
  | .error .exhausted => .ended output
  | .error (.wrong e) => .failed e

/-- The items up to the end of the block. Every item takes a bit, so as much fuel as bits
suffices. -/
def items (literals distances : Code) : Nat → List Bool → List UInt8 → Progress
  | 0, _, output => .ended output
  | fuel + 1, bits, output =>
    Progress.after output bits (item literals distances) fun x bits =>
      match x with
      | .literal b => items literals distances fuel bits (b :: output)
      | .endOfBlock => .open bits output
      | .copy length distance =>
        if output.length < distance then .failed .distanceTooFar
        else items literals distances fuel bits (copied distance length output)

def fixedLiterals : Code :=
  .ofLengths (List.replicate 144 8 ++ List.replicate 112 9 ++ List.replicate 24 7 ++
    List.replicate 8 8)

def fixedDistances : Code := .ofLengths (List.replicate 32 5)

def lengthOrder : List Nat := [16, 17, 18, 0, 8, 7, 9, 6, 10, 5, 11, 4, 12, 3, 13, 2, 14, 1, 15]

def triples : Nat → Reading (List Nat)
  | 0 => return []
  | n + 1 => do
    let x ← number 3
    let xs ← triples n
    return x :: xs

/-- Reads lengths of codes up to a total, the last one first. Every symbol gives at least one
length, so the total suffices as fuel. -/
def codeLengths (code : Code) (total : Nat) : Nat → List Nat → Reading (List Nat)
  | 0, found => return found
  | fuel + 1, found => do
    if total ≤ found.length then return found
    let symbol := (← code.symbol?).getD 0
    if symbol < 16 then codeLengths code total fuel (symbol :: found)
    else
      let (least, width) := if symbol = 16 then (3, 2) else if symbol = 17 then (3, 3) else (11, 7)
      let count := least + (← number width)
      match if symbol = 16 then found.head? else some 0 with
      | none => throw (.wrong .lengthRepeat)
      | some l =>
        if total < found.length + count then throw (.wrong .lengthRepeat)
        else codeLengths code total fuel (List.replicate count l ++ found)

def codesOf (literals distances : List Nat) : Except InflateError (Code × Code) :=
  let literalCode := Code.ofLengths literals
  let distanceCode := Code.ofLengths distances
  if (literals[256]?).getD 0 = 0 then .error .noEndOfBlock
  else if !literalCode.isUsable true then .error .literalLengths
  else if !distanceCode.isUsable true then .error .distances
  else .ok (literalCode, distanceCode)

def ownCodes : Reading (Code × Code) := do
  let literalCount := (← number 5) + 257
  let distanceCount := (← number 5) + 1
  let lengthCount := (← number 4) + 4
  if 286 < literalCount ∨ 30 < distanceCount then throw (.wrong .tooManySymbols)
  let written ← triples lengthCount
  let code := Code.ofLengths
    ((List.range 19).map fun s => (written[lengthOrder.idxOf s]?).getD 0)
  if !code.isUsable false then throw (.wrong .codeLengths)
  let total := literalCount + distanceCount
  let found := (← codeLengths code total total []).reverse
  match codesOf (found.take literalCount) (found.drop literalCount) with
  | .ok codes => return codes
  | .error e => throw (.wrong e)

def stored : Nat → List Bool → List UInt8 → Progress
  | 0, bits, output => .open bits output
  | n + 1, bits, output =>
    Progress.after output bits (number 8) fun b bits => stored n bits (UInt8.ofNat b :: output)

def storedBlock (bits : List Bool) (output : List UInt8) : Progress :=
  Progress.after output (bits.drop (bits.length % 8)) (number 32) fun n bits =>
    if n % 65536 + n / 65536 = 65535 then stored (n % 65536) bits output
    else .failed .storedLengths

def block (kind : Nat) (bits : List Bool) (output : List UInt8) : Progress :=
  match kind with
  | 0 => storedBlock bits output
  | 1 => items fixedLiterals fixedDistances (bits.length + 1) bits output
  | 2 =>
    Progress.after output bits ownCodes fun (literals, distances) bits =>
      items literals distances (bits.length + 1) bits output
  | _ => .failed .blockType

/-- The blocks up to the last one. Every block takes three bits, so as much fuel as bits
suffices. -/
def blocks : Nat → List Bool → List UInt8 → Progress
  | 0, _, output => .ended output
  | fuel + 1, bits, output =>
    Progress.after output bits (number 3) fun head bits =>
      match block (head / 2) bits output with
      | .open bits output => if head % 2 = 1 then .open bits output else blocks fuel bits output
      | other => other

def start (bytes : List UInt8) : Progress :=
  let bits := bytes.flatMap byteBits
  blocks (bits.length + 1) bits []

def raw? (bytes : List UInt8) : Except InflateError (List UInt8) :=
  match start bytes with
  | .open _ output | .ended output => .ok output.reverse
  | .failed e => .error e

def checksum (bytes : List UInt8) : Nat :=
  let (a, b) := bytes.foldl (fun (a, b) x =>
    let a := (a + x.toNat) % 65521
    (a, (b + a) % 65521)) (1, 0)
  65536 * b + a

/-- A header names the method and a window, its two bytes are a multiple of 31, and it asks for no
dictionary. -/
def isHeader (method flags : Nat) : Bool :=
  (256 * method + flags) % 31 == 0 && method % 16 == 8 && method / 16 ≤ 7 && flags / 32 % 2 == 0

def wrapped? (bytes : List UInt8) : Except InflateError (List UInt8) :=
  match bytes with
  | method :: flags :: rest =>
    if !isHeader method.toNat flags.toNat then .error .header
    else
      match start rest with
      | .ended output => .ok output.reverse
      | .failed e => .error e
      | .open bits output =>
        let tail := rest.drop (rest.length - bits.length / 8)
        let check := (tail.take 4).foldl (fun n b => 256 * n + b.toNat) 0
        if tail.length < 4 ∨ check = checksum output.reverse then .ok output.reverse
        else .error .check
  | _ => .ok []

end Inflate

end QueryGate
