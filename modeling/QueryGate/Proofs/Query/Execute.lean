import QueryGate.Proofs.Store.Statement
import QueryGate.Query.Execute

/-!
# Executing a query against the store itself

`Query.rows_eq`: a query that is served for blogs gives the rows of its selection, and any other
query is refused before the store is asked.
-/

set_option autoImplicit false

namespace QueryGate.Query

/-- The table that a query is run on: the one that is named, or else its own. -/
def servedTable (q : Query) (table : Option String) : String :=
  match table with
  | some t => if t.isEmpty then q.table else t
  | none => q.table

theorem execute_eq (db : Database) (timeout : Value) (q : Query) (table : Option String) :
    execute db timeout q table =
      match StoreTable.ofName? (q.servedTable table) with
      | some .blog => fun c =>
        let (result, c) := Connection.readOnly db timeout (selectBlogs db q) c
        (result.mapError timeoutOr, c)
      | _ => Connection.attempt (.error (.query (.unimplementedTable (q.servedTable table)))) :=
  rfl

variable {q : Query} {table : Option String} (store : Store) (timeout : Value)

section Plain

variable {db : Database} (hdialect : db.dialect = .sqlite) (htrouble : ∀ n, db.trouble n = none)
include hdialect htrouble

/-- A database of the first dialect that does not fail by itself answers a query on blogs with what
it fetches, once the values are converted. -/
theorem rowsOn_eq (h : StoreTable.ofName? (q.servedTable table) = some .blog) :
    q.rowsOn db store timeout table =
      (Select.ofQuery q >>= fun s =>
        Connection.convert .sqlite s >>= fun _ => db.fetch store s).mapError timeoutOr := by
  obtain ⟨dialect, fetch, trouble⟩ := db
  obtain rfl : dialect = .sqlite := hdialect
  obtain rfl : trouble = fun _ => none := funext htrouble
  rw [rowsOn, execute_eq, h]
  cases hs : Select.ofQuery q with
  | error e =>
    have hwork : selectBlogs ⟨.sqlite, fetch, fun _ => none⟩ q =
        Connection.attempt (.error e) := by
      rw [selectBlogs, hs]
      rfl
    rw [hwork]
    rfl
  | ok s =>
    have hwork : selectBlogs ⟨.sqlite, fetch, fun _ => none⟩ q =
        Connection.select ⟨.sqlite, fetch, fun _ => none⟩ s := by
      rw [selectBlogs, hs]
      rfl
    rw [hwork, Attempt.ok_bind]
    unfold Connection.select
    cases Connection.convert .sqlite s <;> rfl

end Plain

theorem convert_handOver {α : Type} (s : Select) (prepared : Attempt Unit)
    (f : List BoundClause → Attempt α) :
    (Connection.convert .sqlite s >>= fun _ => s.handOver prepared >>= f) =
      s.handOver prepared >>= f := by
  unfold Connection.convert Select.handOver
  cases s.clauses.mapM Clause.convert <;> rfl

theorem rows_eq (h : StoreTable.ofName? (q.servedTable table) = some .blog) :
    q.rows store timeout table =
      (Select.ofQuery q >>= fun s => s.run store).mapError timeoutOr := by
  rw [rows, rowsOn_eq store timeout rfl (fun _ => rfl) h]
  congr 2
  funext s
  exact convert_handOver s s.prepare _

theorem rowsOn_eq_error (db : Database)
    (h : StoreTable.ofName? (q.servedTable table) ≠ some .blog) :
    q.rowsOn db store timeout table =
      .error (.query (.unimplementedTable (q.servedTable table))) := by
  rw [rowsOn, execute_eq]
  split
  · rename_i hblog
    exact absurd hblog h
  · rfl

theorem rows_eq_error (h : StoreTable.ofName? (q.servedTable table) ≠ some .blog) :
    q.rows store timeout table = .error (.query (.unimplementedTable (q.servedTable table))) :=
  rowsOn_eq_error store timeout .embedded h

end QueryGate.Query
