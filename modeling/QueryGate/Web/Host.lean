import QueryGate.Number.Numeral
import QueryGate.Text.Percent
import QueryGate.Web.Domain.Basic

/-!
# Hosts

A host is written as the numbers of an address in one of two forms, or as a name. Numbers have to
be an address; a name in ASCII may be any text, other names have to be domain names. Main
definition: `Host.normalize`.
-/

set_option autoImplicit false

namespace QueryGate

inductive HostError where
  | fourNumbers (host : String)
  | groups (host : String)
  | domain (host : String)
deriving DecidableEq, Repr

namespace Host

/-- Can the text be cut into so many and one runs of digits, with one character of any kind between
each two? `inRun` tells that the current run has a digit. -/
def isRunsOfDigits : Nat → Bool → List Char → Bool
  | separators, inRun, [] => separators == 0 && inRun
  | 0, _, c :: rest => c.isDigit && isRunsOfDigits 0 true rest
  | separators + 1, inRun, c :: rest =>
    (c.isDigit && isRunsOfDigits (separators + 1) true rest) ||
      (inRun && isRunsOfDigits separators false rest)

def isOctet (cs : List Char) : Bool :=
  !cs.isEmpty && cs.length ≤ 3 && cs.all Char.isDigit && (cs == ['0'] || cs.head? != some '0') &&
    Numeral.ofDigits (cs.map fun c => c.toNat - '0'.toNat) ≤ 255

def isFourNumbers (cs : List Char) : Bool :=
  let parts := Text.splitAll '.' cs
  parts.length == 4 && parts.all isOctet

def isGroup (cs : List Char) : Bool :=
  !cs.isEmpty && cs.length ≤ 4 && cs.all fun c => (Text.hexValue? c).isSome

/-- Groups with two others in place of four numbers at the end, if those are an address. -/
def widened? (parts : List (List Char)) : Option (List (List Char)) :=
  match parts.getLast? with
  | some last =>
    if last.contains '.' then
      if isFourNumbers last then some (parts.dropLast ++ [['0'], ['0']]) else none
    else some parts
  | none => some parts

/-- The groups that are written on one side of a gap. An empty one may only touch the gap, where it
comes from a second colon. -/
def sideFits (outermost : Option (List Char)) (side : List (List Char)) : Bool :=
  match outermost with
  | some [] => side.length == 1
  | _ => side.all isGroup

def sideCount (side : List (List Char)) : Nat := if side == [[]] then 0 else side.length

def areGroups (parts : List (List Char)) : Bool :=
  let inner := (parts.drop 1).dropLast
  match inner.findIdx? List.isEmpty with
  | none => parts.length == 8 && parts.all isGroup
  | some i =>
    let before := parts.take (i + 1)
    let after := parts.drop (i + 2)
    !(inner.drop (i + 1)).any List.isEmpty && sideFits before.head? before &&
      sideFits after.getLast? after && sideCount before + sideCount after < 8

def isGroups (cs : List Char) : Bool :=
  let (address, zoneFits) := match Text.splitFirst '%' cs with
    | some (address, zone) => (address, !zone.isEmpty && !zone.contains '%')
    | none => (cs, true)
  let parts := Text.splitAll ':' address
  zoneFits && !cs.contains '/' && 3 ≤ parts.length &&
    match widened? parts with
    | some parts => parts.length ≤ 9 && areGroups parts
    | none => false

def isNameChar (c : Char) : Bool :=
  Percent.isUnreserved c || "!$&'()*+,;=\"\x60\x7b\x7d%|\\".toList.contains c

/-- A host as it is sent, without brackets around groups. -/
def normalize (host : String) : Except HostError String :=
  let cs := host.toList
  if host.isEmpty then .ok ""
  else if isRunsOfDigits 3 false cs then
    if isFourNumbers cs then .ok host else .error (.fourNumbers host)
  else if cs.head? == some '[' && cs.getLast? == some ']' && 2 ≤ cs.length then
    let inner := (cs.drop 1).dropLast
    if isGroups inner then .ok (String.ofList inner) else .error (.groups host)
  else if cs.all (·.toNat < 0x80) then
    .ok (Percent.encode isNameChar (String.ofList (cs.map Text.asciiLower)))
  else
    match Domain.encode? (Text.lower host) with
    | some name => .ok name
    | none => .error (.domain host)

end Host

end QueryGate
