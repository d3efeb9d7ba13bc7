import QueryGate.Value.Access
import QueryGate.Whitelist.Basic

/-!
# Whitelists as documents

`Whitelist.ofDocument` reads a whitelist from a document; `Whitelist.catalog` writes one. Of two
tables or relations of one name the last counts, at the place of the first. Repeated fields count
once.
-/

set_option autoImplicit false

namespace QueryGate

namespace Whitelist

def usualFields : List Value := [.text "id", .text "title", .text "createdAt"]

def readRelation (v : Value) : Attempt Relation := do
  let name ← v.required "name"
  let table ← v.required "table"
  let identifying ← v.optional? "identifying"
  let identifying ← (Value.orElse identifying (.list [.text "id"])).items
  .ok ⟨name, table, identifying⟩

def keyed {α : Type} (v : Value) (read : Value → Attempt α) : Attempt (Value × α) := do
  let name ← v.required "name"
  let content ← read v
  if name.isHashable then .ok (name, content) else .error (.unhashable name)

def readFields (v : Option Value) : Attempt (List Value) := do
  let fields ← (Value.orElse v (.list [])).items
  match fields.find? (!·.isHashable) with
  | some f => .error (.unhashable f)
  | none => .ok (Value.distinct fields)

def readTable (v : Value) : Attempt Table := do
  let relations ← v.optional? "relations"
  let relations ← (Value.orElse relations (.list [])).items
  let relations ← relations.mapM (keyed · readRelation)
  let name ← v.required "name"
  let fields ← readFields (← v.optional? "fields")
  .ok ⟨name, fields, Assoc.ofPairs relations⟩

def checkRelations (tables : List (Value × Table)) : Attempt Unit :=
  tables.forM fun (_, t) =>
    t.relations.forM fun (_, r) =>
      if !r.table.isHashable then .error (.unhashable r.table)
      else if (Assoc.get? r.table tables).isSome then .ok ()
      else .error (.danglingRelation t.name r.name r.table)

def readLimit (defaults : Value) (key : String) (usual : Int) : Attempt Int := do
  match ← defaults.optional? key with
  | none => .ok usual
  | some v => v.toWhole

/-- Reads a whitelist from a document. -/
def ofDocument (doc : Value) : Attempt Whitelist := do
  let tables ← ((← doc.optional? "tables").getD (.list [])).items
  let tables ← tables.mapM (keyed · readTable)
  let tables := Assoc.ofPairs tables
  checkRelations tables
  let defaults := Value.orElse (← doc.optional? "defaults") (.object [])
  let maxLimit ← readLimit defaults "max_limit" 100
  let defaultLimit ← readLimit defaults "limit" 10
  if 0 < defaultLimit ∧ defaultLimit ≤ maxLimit then
    let version := (← doc.optional? "version").getD (.int 1)
    let fields ← (Value.orElse (← defaults.optional? "fields") (.list usualFields)).items
    .ok ⟨version, tables, fields, defaultLimit, maxLimit⟩
  else .error (.badDefaultLimit defaultLimit maxLimit)

def relationEntry (r : Relation) : Value :=
  .object [("name", r.name), ("table", r.table), ("identifying", .list r.identifying)]

def tableEntry (t : Table) : Value :=
  .object [("name", t.name), ("fields", .list t.fields),
    ("relations", .list (t.relations.map fun p => relationEntry p.2))]

def catalog (w : Whitelist) : Value :=
  .object [("tables", .list (w.tables.map fun p => tableEntry p.2)),
    ("default_fields", .list w.defaultFields),
    ("default_limit", .int w.defaultLimit), ("max_limit", .int w.maxLimit)]

end Whitelist

end QueryGate
