import QueryGate.Failure

/-!
# The whitelist

The tables a query may name, the fields of each that may be selected or filtered, and the relations
that a dotted field may cross. Names are values, since a document may name a table by a number;
only names that are texts can be looked up. Main definition: `Whitelist.resolves`, which decides
whether a field name of a filter is allowed.
-/

set_option autoImplicit false

namespace QueryGate

/-- A field name, cut at its first dot into a relation and a column of the related table. -/
structure FieldPath where
  relation : Option String
  column : String
deriving DecidableEq, Repr

namespace FieldPath

def ofName (name : String) : FieldPath :=
  match Text.splitFirst '.' name.toList with
  | none => ⟨none, name⟩
  | some (relation, column) => ⟨some (String.ofList relation), String.ofList column⟩

def name (p : FieldPath) : String :=
  match p.relation with
  | none => p.column
  | some relation => relation ++ "." ++ p.column

end FieldPath

/-- A relation to another table, with the fields that tell related rows apart. -/
structure Relation where
  name : Value
  table : Value
  identifying : List Value

structure Table where
  name : Value
  fields : List Value
  relations : List (Value × Relation)

namespace Table

def allows (t : Table) (field : Value) : Bool := t.fields.any (·.same field)

def relation? (t : Table) (name : Value) : Option Relation := Assoc.get? name t.relations

end Table

/-- The tables in order, the fields selected by default, and the two limits. -/
structure Whitelist where
  version : Value
  tables : List (Value × Table)
  defaultFields : List Value
  defaultLimit : Int
  maxLimit : Int

namespace Whitelist

def table? (w : Whitelist) : Value → Option Table
  | .text name => Assoc.get? (Value.text name) w.tables
  | _ => none

def tableNames (w : Whitelist) : List Value := Assoc.keys w.tables

def allowedFields (w : Whitelist) (table : Value) : List Value :=
  match w.table? table with
  | some t => t.fields
  | none => []

def reaches (w : Whitelist) (r : Relation) (column : Value) : Bool :=
  match w.table? r.table with
  | some target => target.allows column
  | none => false

/-- Is the field name an allowed field of the table, or an allowed column one relation away? -/
def resolves (w : Whitelist) (table : Value) (field : String) : Bool :=
  match w.table? table with
  | none => false
  | some t =>
    match FieldPath.ofName field with
    | ⟨none, column⟩ => t.allows (.text column)
    | ⟨some relation, column⟩ =>
      match t.relation? (.text relation) with
      | none => false
      | some r => w.reaches r (.text column)

def relationOf? (w : Whitelist) (table name : Value) : Attempt (Option Relation) :=
  match w.table? table with
  | none => .error .undeclaredTable
  | some t => if name.isHashable then .ok (t.relation? name) else .error (.unhashable name)

def allowsOn (w : Whitelist) (table field : Value) : Attempt Bool :=
  match w.table? table with
  | none => .error .undeclaredTable
  | some t => .ok (t.allows field)

/-- `resolves` for field names of any kind. Lists and objects count as names without a dot unless
they hold one. -/
def resolvesAny (w : Whitelist) (table field : Value) : Attempt Bool :=
  match w.table? table with
  | none => .ok false
  | some t =>
    match field with
    | .text name => .ok (w.resolves table name)
    | .list items =>
      if items.any (·.same (.text ".")) then .error .unreadableName
      else .ok (t.allows field)
    | .object members =>
      if members.any (·.1 == ".") then .error .unreadableName
      else .ok (t.allows field)
    | v => .error (.notIterable v)

structure Textual (w : Whitelist) : Prop where
  tables : ∀ p ∈ w.tables, (∃ s, p.1 = .text s) ∧ (∃ s, p.2.name = .text s)
  fields : ∀ p ∈ w.tables, ∀ f ∈ p.2.fields, ∃ s, f = .text s
  relations : ∀ p ∈ w.tables, ∀ r ∈ p.2.relations,
    (∃ s, r.1 = .text s) ∧ (∃ s, r.2.name = .text s) ∧ (∃ s, r.2.table = .text s) ∧
      ∀ f ∈ r.2.identifying, ∃ s, f = .text s
  defaultFields : ∀ f ∈ w.defaultFields, ∃ s, f = .text s

end Whitelist

end QueryGate
