import QueryGate.Proofs.Query.Execute
import QueryGate.Proofs.Sql.Values

/-!
# What a read-only transaction sends

The log of a read-only transaction is its opening, what its work sent, and its end. Main statement:
`Query.sends`: the work of a query on blogs sends the statement of its selection, once, or nothing.
-/

set_option autoImplicit false

namespace QueryGate

namespace Connection

def begun (c : Connection) : Connection := (c.record .connect).start

def opening (db : Database) (timeout : Value) (c : Connection) : List Event :=
  (prepare db timeout c.begun).2.events

def ended (c : Connection) : Connection := c.rollback.record .close

theorem events_record (c : Connection) (e : Event) : (c.record e).events = c.events ++ [e] :=
  List.reverse_cons

theorem events_begun (c : Connection) : c.begun.events = c.events ++ [.connect, .start] := by
  have hstart : c.begun.events = ((c.record .connect).record .start).events := rfl
  rw [hstart, events_record, events_record, List.append_assoc]
  rfl

theorem events_ended (c : Connection) : c.ended.events = c.events ++ [.rollback, .close] := by
  have hrollback : c.rollback.events = (c.record .rollback).events := rfl
  rw [ended, events_record, hrollback, events_record, List.append_assoc]
  rfl

theorem events_send (db : Database) (s : SqlText) (c : Connection) :
    (send db s c).2.events = c.events ++ [.statement s] := by
  have hlog : (send db s c).2.log = .statement s :: c.log := by
    unfold send
    dsimp only
    split <;> rfl
  rw [events, hlog, List.reverse_cons]
  rfl

theorem select_of_error {db : Database} {s : Select} {e : Failure}
    (h : convert db.dialect s = .error e) (c : Connection) : select db s c = (.error e, c) :=
  Attempt.bind_apply_of_error (congrArg (·, c) h)

theorem select_of_ok {db : Database} {s : Select} (h : convert db.dialect s = .ok ())
    (c : Connection) : select db s c =
      (do send db (Sql.selectText db.dialect s); fun c => (db.fetch c.store s, c) :
        Work (List Value)) c :=
  Attempt.bind_apply_of_ok (congrArg (·, c) h)

theorem events_select {db : Database} {s : Select} (h : convert db.dialect s = .ok ())
    (c : Connection) :
    (select db s c).2.events = c.events ++ [.statement (Sql.selectText db.dialect s)] := by
  rw [← events_send, select_of_ok h]
  rcases hsend : send db (Sql.selectText db.dialect s) c with ⟨e | ⟨⟩, c'⟩
  · rw [Attempt.bind_apply_of_error hsend]
  · rw [Attempt.bind_apply_of_ok hsend]

section Transaction

variable {α : Type} {db : Database} {timeout : Value} {c prepared : Connection} (work : Work α)

theorem readOnly_of_ok (h : prepare db timeout c.begun = (.ok (), prepared)) :
    readOnly db timeout work c = ((work prepared).1, (work prepared).2.ended) := by
  have hwork : (do prepare db timeout; work : Work α) c.begun = work prepared :=
    Attempt.bind_apply_of_ok h
  rw [begun] at hwork
  simp only [readOnly, hwork]
  rfl

theorem readOnly_of_error {e : Failure} (h : prepare db timeout c.begun = (.error e, prepared)) :
    readOnly db timeout work c = (.error e, prepared.ended) := by
  have hwork : (do prepare db timeout; work : Work α) c.begun = (.error e, prepared) :=
    Attempt.bind_apply_of_error h
  rw [begun] at hwork
  simp only [readOnly, hwork]
  rfl

end Transaction

end Connection

namespace Query

/-- The query sends a statement with the text and the parameters, or none where there is no text,
after the opening of its transaction; rows come with the statement only. -/
structure Sends (db : Database) (timeout : Value) (q : Query) (table : Option String)
    (c : Connection) (text? : Option String) (params : List Value) : Prop where
  events : (execute db timeout q table c).2.events = Connection.opening db timeout c ++
    (text?.map fun text => Event.statement ⟨text, params⟩).toList ++ [.rollback, .close]
  rows : text? = none → ∀ rows, (execute db timeout q table c).1 ≠ .ok rows

/-- The text of the statement that the query makes, if its transaction opens and it has a
selection. -/
def madeText? (db : Database) (timeout : Value) (q : Query) (c : Connection) : Option String :=
  match (Connection.prepare db timeout c.begun).1, Select.ofQuery q with
  | .ok _, .ok s => some (Sql.selectText db.dialect s).text
  | _, _ => none

/-- The database takes the values of the query, so that its statement is sent. -/
def isTakenBy (q : Query) (db : Database) : Bool :=
  match Select.ofQuery q with
  | .ok s => (Connection.convert db.dialect s).toBool
  | .error _ => true

variable {q : Query} {table : Option String}

theorem execute_blogs (h : StoreTable.ofName? (q.servedTable table) = some .blog) (db : Database)
    (timeout : Value) (c : Connection) :
    execute db timeout q table c =
      ((Connection.readOnly db timeout (selectBlogs db q) c).1.mapError timeoutOr,
        (Connection.readOnly db timeout (selectBlogs db q) c).2) := by
  rw [execute_eq, h]
  rfl

/-- The work of a query on blogs is to select what the query asks for, if it has a selection. -/
theorem selectBlogs_eq (db : Database) (q : Query) (c : Connection) :
    selectBlogs db q c = match Select.ofQuery q with
      | .error e => (.error e, c)
      | .ok s => Connection.select db s c := by
  cases h : Select.ofQuery q with
  | error e =>
    rw [selectBlogs, h]
    exact Attempt.bind_apply_of_error rfl
  | ok s =>
    rw [selectBlogs, h]
    exact Attempt.bind_apply_of_ok rfl

theorem sends (h : StoreTable.ofName? (q.servedTable table) = some .blog) (db : Database)
    {params : List Value}
    (hparams : ∀ s, Select.ofQuery q = .ok s → s.values db.dialect = params) (timeout : Value)
    (c : Connection) : Sends db timeout q table c
      ((madeText? db timeout q c).filter fun _ => q.isTakenBy db) params := by
  -- The cases are how far the work gets before the statement of the selection is due.
  rcases hprepare : Connection.prepare db timeout c.begun with ⟨e | ⟨⟩, prepared⟩
  case error =>
    have hread := Connection.readOnly_of_error (selectBlogs db q) hprepare
    have htext : madeText? db timeout q c = none := by
      rw [madeText?, hprepare]
    constructor
    · rw [execute_blogs h, hread, htext, Connection.events_ended, Connection.opening, hprepare]
      simp
    · intro _ rows hrows
      rw [execute_blogs h, hread] at hrows
      cases hrows
  case ok =>
    have hread := Connection.readOnly_of_ok (selectBlogs db q) hprepare
    cases hselection : Select.ofQuery q with
    | error e =>
      have hwork : selectBlogs db q prepared = (.error e, prepared) := by
        rw [selectBlogs_eq, hselection]
      have htext : madeText? db timeout q c = none := by
        rw [madeText?, hprepare, hselection]
      constructor
      · rw [execute_blogs h, hread, hwork, htext, Connection.events_ended, Connection.opening,
          hprepare]
        simp
      · intro _ rows hrows
        rw [execute_blogs h, hread, hwork] at hrows
        cases hrows
    | ok s =>
      have hwork : selectBlogs db q prepared = Connection.select db s prepared := by
        rw [selectBlogs_eq, hselection]
      have htext : madeText? db timeout q c = some (Sql.selectText db.dialect s).text := by
        rw [madeText?, hprepare, hselection]
      cases hconvert : Connection.convert db.dialect s with
      | error e =>
        have htaken : q.isTakenBy db = false := by
          rw [isTakenBy, hselection]
          exact congrArg Except.toBool hconvert
        rw [Connection.select_of_error hconvert] at hwork
        constructor
        · rw [execute_blogs h, hread, hwork, htext, htaken, Connection.events_ended,
            Connection.opening, hprepare]
          simp
        · intro _ rows hrows
          rw [execute_blogs h, hread, hwork] at hrows
          cases hrows
      | ok _ =>
        have htaken : q.isTakenBy db = true := by
          rw [isTakenBy, hselection]
          exact congrArg Except.toBool hconvert
        constructor
        · rw [execute_blogs h, hread, hwork, htext, htaken, Connection.events_ended,
            Connection.events_select hconvert, Connection.opening, hprepare, ← hparams s hselection,
            ← Sql.params_selectText db.dialect s]
          rfl
        · intro hnone
          rw [htext, htaken] at hnone
          cases hnone

end Query

end QueryGate
