import QueryGate.Store.Change
import QueryGate.Store.Select

/-!
# Read-only connections

Work on a connection leaves a log of what was sent. A transaction remembers the store that it
started with, and goes back to it when it is rolled back. `Connection.readOnly` wraps work into a
transaction that is always rolled back, however the work ended. Databases of the second dialect are
told that it only reads, and given a time limit, before the work begins.
-/

set_option autoImplicit false

namespace QueryGate

inductive Event where
  | connect
  | start
  | statement (s : SqlText)
  | rollback
  | close

/-- How a database answers: its dialect, the rows of a selection, and the message with which the
`n`-th statement of a connection fails, if it does. -/
structure Database where
  dialect : Dialect
  fetch : Store → Select → Attempt (List Value)
  trouble : Nat → Option String

namespace Database

/-- The database that keeps its rows in the store itself. -/
def embedded : Database := ⟨.sqlite, fun store s => s.run store, fun _ => none⟩

end Database

/-- The store as a connection sees it, the store that its open transaction started with, the number
of statements sent, and the log, last event first. -/
structure Connection where
  store : Store
  saved : Option Store
  sent : Nat
  log : List Event

abbrev Work (α : Type) := ExceptT Failure (StateM Connection) α

namespace Connection

def fresh (s : Store) : Connection := ⟨s, none, 0, []⟩

def record (c : Connection) (e : Event) : Connection := { c with log := e :: c.log }

def start (c : Connection) : Connection := { c.record .start with saved := some c.store }

def rollback (c : Connection) : Connection :=
  { c.record .rollback with store := c.saved.getD c.store, saved := none }

def events (c : Connection) : List Event := c.log.reverse

def send (db : Database) (s : SqlText) : Work Unit := fun c =>
  let c := { c.record (.statement s) with sent := c.sent + 1 }
  match db.trouble c.sent with
  | some message => (.error (.store message), c)
  | none => (.ok (), c)

def attempt {α : Type} (a : Attempt α) : Work α := fun c => (a, c)

/-- What a dialect asks of the values before a statement is sent. The second one takes them as they
are. -/
def convert (d : Dialect) (s : Select) : Attempt Unit :=
  match d with
  | .sqlite => (s.clauses.mapM Clause.convert).map fun _ => ()
  | .postgres => .ok ()

def select (db : Database) (s : Select) : Work (List Value) := do
  attempt (convert db.dialect s)
  send db (Sql.selectText db.dialect s)
  fun c => (db.fetch c.store s, c)

def change (x : Change) : Work Unit := fun c =>
  match c.store.apply x with
  | .ok s => (.ok (), { c with store := s })
  | .error e => (.error e, c)

def prepare (db : Database) (timeout : Value) : Work Unit :=
  match db.dialect with
  | .sqlite => pure ()
  | .postgres => do
    send db ⟨"SET TRANSACTION READ ONLY", []⟩
    let milliseconds ← attempt timeout.toWhole
    send db ⟨"SET LOCAL statement_timeout = " ++ toString milliseconds, []⟩

/-- Work within a transaction that is rolled back at its end. -/
def readOnly {α : Type} (db : Database) (timeout : Value) (work : Work α) : Work α := fun c =>
  let started := (c.record .connect).start
  let (result, ended) := (do prepare db timeout; work : Work α) started
  (result, ended.rollback.record .close)

end Connection

end QueryGate
