import QueryGate.Store.Connection

/-!
# Executing queries

`Query.execute` runs a query against the store in a read-only transaction. Only blogs are served; a
database that gives up on a statement is reported as a timeout.
-/

set_option autoImplicit false

namespace QueryGate.Query

def timeoutOr (e : Failure) : Failure :=
  match e with
  | .store message =>
    if Text.occursIn "statement timeout".toList (Text.lower message).toList then
      .query .storeTimeout
    else e
  | e => e

def selectBlogs (db : Database) (q : Query) : Work (List Value) := do
  let s ← Connection.attempt (Select.ofQuery q)
  Connection.select db s

/-- Runs a query on the table that is named, or else on its own; `timeout` is in milliseconds. -/
def execute (db : Database) (timeout : Value) (q : Query) (table : Option String) :
    Work (List Value) :=
  let name := match table with
    | some t => if t.isEmpty then q.table else t
    | none => q.table
  match StoreTable.ofName? name with
  | some .blog => fun c =>
    let (result, c) := Connection.readOnly db timeout (selectBlogs db q) c
    (result.mapError timeoutOr, c)
  | _ => Connection.attempt (.error (.query (.unimplementedTable name)))

/-- The rows of a query on a connection of its own. -/
def rowsOn (db : Database) (store : Store) (timeout : Value) (q : Query) (table : Option String) :
    Attempt (List Value) :=
  (execute db timeout q table (Connection.fresh store)).1

/-- The rows of a query against a store that keeps its rows itself. -/
def rows (store : Store) (timeout : Value) (q : Query) (table : Option String) :
    Attempt (List Value) :=
  q.rowsOn .embedded store timeout table

end QueryGate.Query
