import QueryGate.Spec.Basic

/-!
# Compiled queries

A query groups the filters of a spec by field, and those that cross a relation by relation and
column, in order of first occurrence. `Query.ofSpec` compiles; no filter is lost, repeated or
moved before an earlier one of its group.
-/

set_option autoImplicit false

namespace QueryGate

structure Condition where
  op : String
  value : Value

abbrev Conditions := List (String × List Condition)

/-- The conditions on the table itself, and those on each related table. -/
structure Predicate where
  fields : Conditions
  relations : List (String × Conditions)

namespace Predicate

def empty : Predicate := ⟨[], []⟩

def isEmpty (p : Predicate) : Bool := p.fields.isEmpty && p.relations.isEmpty

def append (column : String) (c : Condition) (cs : Conditions) : Conditions :=
  Assoc.adjust column [] (· ++ [c]) cs

def add (p : Predicate) (f : Filter) : Predicate :=
  let c : Condition := ⟨f.op.name, f.value⟩
  match f.isRelation with
  | false => { p with fields := append f.field c p.fields }
  | true =>
    let relation := f.path.relation.getD ""
    { p with relations := Assoc.adjust relation [] (append f.path.column c) p.relations }

def ofFilters (filters : List Filter) : Predicate := filters.foldl add empty

end Predicate

/-- What the store is asked for: columns, conditions, a limit, and the columns that tell the rows
of each related table apart. -/
structure Query where
  table : String
  predicate : Predicate
  projection : List String
  limit : Int
  relationProjection : List (String × List Value)

namespace Query

/-- The identifying columns of a relation; `id` for a relation that the table does not declare. -/
def identifying (table : Option Table) (relation : String) : List Value :=
  match table.bind (·.relation? (.text relation)) with
  | some r => r.identifying
  | none => [.text "id"]

/-- Compiles a spec. -/
def ofSpec (w : Whitelist) (s : Spec) : Query :=
  let predicate := Predicate.ofFilters s.filters
  let table := w.table? (.text s.table)
  ⟨s.table, predicate, s.fields, s.limit,
    (Assoc.keys predicate.relations).map fun r => (r, identifying table r)⟩

end Query

end QueryGate
