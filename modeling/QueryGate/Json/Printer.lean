import QueryGate.Value.Display

/-!
# JSON text of values

Characters outside ASCII are written as themselves; only quotation marks, backslashes and control
characters are escaped. A `JsonLayout` fixes what stands between items and after keys.
-/

set_option autoImplicit false

namespace QueryGate

structure JsonLayout where
  comma : String
  colon : String

namespace JsonLayout

def spaced : JsonLayout := ⟨", ", ": "⟩

def compact : JsonLayout := ⟨",", ":"⟩

end JsonLayout

namespace Json

def escapeChar (c : Char) : List Char :=
  if c = '"' then ['\\', '"']
  else if c = '\\' then ['\\', '\\']
  else if c = '\n' then ['\\', 'n']
  else if c = '\r' then ['\\', 'r']
  else if c = '\t' then ['\\', 't']
  else if c = '\x08' then ['\\', 'b']
  else if c = '\x0c' then ['\\', 'f']
  else if c.toNat < 0x20 then '\\' :: 'u' :: Text.hexDigits 4 c.toNat
  else [c]

def literalChars (cs : List Char) : List Char := '"' :: (cs.flatMap escapeChar ++ ['"'])

def literal (s : String) : String := String.ofList (literalChars s.toList)

mutual

def write (layout : JsonLayout) : Value → String
  | .null => "null"
  | .bool true => "true"
  | .bool false => "false"
  | .int n => toString n
  | .float x => NumberStyle.json.text x
  | .text s => literal s
  | .list items => "[" ++ String.intercalate layout.comma (writeItems layout items) ++ "]"
  | .object members =>
    "\x7b" ++ String.intercalate layout.comma (writeMembers layout members) ++ "\x7d"
  | .moment t => literal (Value.shown (.moment t))
  | .day d => literal d.isoText

def writeItems (layout : JsonLayout) : List Value → List String
  | [] => []
  | v :: rest => write layout v :: writeItems layout rest

def writeMembers (layout : JsonLayout) : List (String × Value) → List String
  | [] => []
  | (k, v) :: rest => (literal k ++ layout.colon ++ write layout v) :: writeMembers layout rest

end

def compact (v : Value) : String := write .compact v

end Json

end QueryGate
