import QueryGate.Failure

/-!
# Log levels and lines

A logger passes records of its level and above. `Log.level` reads the level from a setting,
`Log.passes` decides about a record, `Log.line` is the text of a record behind its time.
-/

set_option autoImplicit false

namespace QueryGate.Log

def levels : List (String × Int) :=
  [("DEBUG", 10), ("INFO", 20), ("WARNING", 30), ("ERROR", 40), ("CRITICAL", 50), ("NOTSET", 0)]

def aliases : List (String × Int) := [("WARN", 30), ("FATAL", 50)]

def usualLevel : Int := 20

def inheritedLevel : Int := 30

/-- The capital of a letter whose capital is one of A to Z; every other character stays. -/
def capital (c : Char) : Char :=
  if c = 'ı' then 'I' else if c = 'ſ' then 'S' else Text.asciiUpper c

def level (setting : String) : Attempt Int :=
  let name := String.ofList (setting.toList.map capital)
  match Assoc.get? name (levels ++ aliases) with
  | some n => .ok n
  | none =>
    if name = "BASIC_FORMAT" then .error (.badValue "Unknown level")
    else if name = "_STYLES" then .error (.wrongKind "Level not an integer or a valid string")
    else .ok usualLevel

def levelName (level : Int) : String :=
  match levels.find? (·.2 == level) with
  | some (name, _) => name
  | none => "Level " ++ toString level

def rootName : String := "root"

def loggerName (name : String) : String := if name.isEmpty then rootName else name

def effectiveLevel (name : String) (level : Int) : Int :=
  if level = 0 ∧ loggerName name ≠ rootName then inheritedLevel else level

def passes (name : String) (level record : Int) : Bool :=
  0 < record && effectiveLevel name level ≤ record

def line (record : Int) (name message : String) : String :=
  Text.padRight 8 (levelName record) ++ " | " ++ loggerName name ++ " | " ++ message

end QueryGate.Log
