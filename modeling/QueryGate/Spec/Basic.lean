import QueryGate.Whitelist.Basic

/-!
# Query specs

A spec is what a request asks for: a table, fields, filters and a limit. Specs are selections;
`Spec.toObject` is their form in answers.
-/

set_option autoImplicit false

namespace QueryGate

inductive Operator where
  | equals
  | contains
  | oneOf
  | below
  | atMost
  | above
  | atLeast
deriving DecidableEq, Repr

namespace Operator

def all : List Operator := [.equals, .contains, .oneOf, .below, .atMost, .above, .atLeast]

def name : Operator → String
  | .equals => "equals"
  | .contains => "contains"
  | .oneOf => "in"
  | .below => "lt"
  | .atMost => "lte"
  | .above => "gt"
  | .atLeast => "gte"

def ofName? (name : String) : Option Operator := all.find? (·.name == name)

def names : List String := all.map name

theorem ofName?_name (op : Operator) : ofName? op.name = some op := by
  cases op <;> decide

theorem name_of_ofName? {s : String} {op : Operator} (h : ofName? s = some op) : op.name = s := by
  simpa using List.find?_some h

end Operator

/-- One filter: a field name, perhaps with a relation in front of a dot, and what is asked of it. -/
structure Filter where
  field : String
  op : Operator
  value : Value

namespace Filter

def path (f : Filter) : FieldPath := FieldPath.ofName f.field

def isRelation (f : Filter) : Bool := f.field.toList.contains '.'

def toObject (f : Filter) : Value :=
  .object [("field", .text f.field), ("op", .text f.op.name), ("value", f.value)]

end Filter

/-- A selection from one table. -/
structure Spec where
  table : String
  fields : List String
  filters : List Filter
  limit : Int

namespace Spec

def action : String := "select"

def toObject (s : Spec) : Value :=
  .object [("action", .text action), ("table", .text s.table),
    ("fields", .list (s.fields.map .text)), ("filters", .list (s.filters.map Filter.toObject)),
    ("limit", .int s.limit)]

end Spec

end QueryGate
