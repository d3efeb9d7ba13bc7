import QueryGate.Text.Basic
import QueryGate.Value.Basic

/-!
# Values as shown in messages

`Value.quoted` is the form that names every kind apart, with quotation marks around text;
`Value.shown` leaves a text as it is. `Value.kindName` is the word for the kind of a value.
-/

set_option autoImplicit false

namespace QueryGate.Value

def quotedChar (mark c : Char) : List Char :=
  if c = mark ∨ c = '\\' then ['\\', c]
  else if c = '\n' then ['\\', 'n']
  else if c = '\r' then ['\\', 'r']
  else if c = '\t' then ['\\', 't']
  else if Text.isPrintable c then [c]
  else if c.toNat < 0x100 then '\\' :: 'x' :: Text.hexDigits 2 c.toNat
  else if c.toNat < 0x10000 then '\\' :: 'u' :: Text.hexDigits 4 c.toNat
  else '\\' :: 'U' :: Text.hexDigits 8 c.toNat

def quotationMark (cs : List Char) : Char :=
  if cs.contains '\'' && !cs.contains '"' then '"' else '\''

def quotedText (s : String) : String :=
  let mark := quotationMark s.toList
  String.ofList (mark :: (s.toList.flatMap (quotedChar mark) ++ [mark]))

def momentNumbers (t : Timestamp) : List Nat :=
  [t.date.year, t.date.month, t.date.day, t.hour, t.minute] ++
    (if t.micro ≠ 0 then [t.second, t.micro] else if t.second ≠ 0 then [t.second] else [])

mutual

def quoted : Value → String
  | .null => "None"
  | .bool true => "True"
  | .bool false => "False"
  | .int n => toString n
  | .float x => NumberStyle.shown.text x
  | .text s => quotedText s
  | .list items => "[" ++ String.intercalate ", " (quotedItems items) ++ "]"
  | .object members => "\x7b" ++ String.intercalate ", " (quotedMembers members) ++ "\x7d"
  | .moment t =>
    "datetime.datetime(" ++ String.intercalate ", " ((momentNumbers t).map toString) ++ ")"
  | .day d =>
    "datetime.date(" ++ String.intercalate ", " ([d.year, d.month, d.day].map toString) ++ ")"

def quotedItems : List Value → List String
  | [] => []
  | v :: rest => quoted v :: quotedItems rest

def quotedMembers : List (String × Value) → List String
  | [] => []
  | (k, v) :: rest => (quotedText k ++ ": " ++ quoted v) :: quotedMembers rest

end

def shown : Value → String
  | .text s => s
  | .moment t => String.ofList (t.isoText.toList.map fun c => if c = 'T' then ' ' else c)
  | .day d => d.isoText
  | v => v.quoted

def kindName : Value → String
  | .null => "NoneType"
  | .bool _ => "bool"
  | .int _ => "int"
  | .float _ => "float"
  | .text _ => "str"
  | .list _ => "list"
  | .object _ => "dict"
  | .moment _ => "datetime.datetime"
  | .day _ => "datetime.date"

end QueryGate.Value
