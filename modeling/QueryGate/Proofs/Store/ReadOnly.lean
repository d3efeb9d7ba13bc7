import QueryGate.Pipeline
import QueryGate.Proofs.Query.Answer
import QueryGate.Proofs.Store.Connection

/-!
# Nothing persists from a read-only transaction

Whatever the work of a read-only transaction changes, and wherever it fails, the store is in the end
as it was: no step of the work touches what the transaction started with. So calls one after another
leave the store alone, and each is answered from the store at their beginning. Main statement:
`Connection.readOnly_persists_nothing`.
-/

set_option autoImplicit false

namespace QueryGate

namespace Connection

/-- Work put together of looks at the store, changes to it and statements to the database; it may
go on according to what came out, fail anywhere, and recover from a failure. -/
inductive IsBody (db : Database) : {α : Type} → Work α → Prop
  | look {α : Type} (f : Store → Attempt α) : IsBody db fun c => (f c.store, c)
  | change (x : Change) : IsBody db (Connection.change x)
  | send (s : SqlText) : IsBody db (Connection.send db s)
  | bind {α β : Type} {work : Work α} {next : α → Work β} (h : IsBody db work)
      (hnext : ∀ a, IsBody db (next a)) : IsBody db (work >>= next)
  | recover {α : Type} {work : Work α} {handler : Failure → Work α} (h : IsBody db work)
      (hhandler : ∀ e, IsBody db (handler e)) : IsBody db (tryCatch work handler)

/-- From the first connection to the second the open transaction remains, and statements are all
that is sent. -/
structure Continues (c c' : Connection) : Prop where
  saved : c'.saved = c.saved
  events : ∃ sent : List SqlText, c'.events = c.events ++ sent.map .statement

theorem Continues.refl (c : Connection) : c.Continues c := ⟨rfl, [], (List.append_nil _).symm⟩

theorem Continues.trans {c c' c'' : Connection} (h : c.Continues c') (h' : c'.Continues c'') :
    c.Continues c'' := by
  obtain ⟨sent, hsent⟩ := h.events
  obtain ⟨sent', hsent'⟩ := h'.events
  refine ⟨h'.saved.trans h.saved, sent ++ sent', ?_⟩
  rw [hsent', hsent, List.map_append, List.append_assoc]

theorem continues_change (x : Change) (c : Connection) : c.Continues (change x c).2 := by
  unfold change
  split
  · exact ⟨rfl, [], (List.append_nil _).symm⟩
  · exact .refl c

theorem continues_send (db : Database) (s : SqlText) (c : Connection) :
    c.Continues (send db s c).2 := by
  refine ⟨?_, [s], events_send db s c⟩
  unfold send
  dsimp only
  split <;> rfl

theorem IsBody.continues {db : Database} {α : Type} {work : Work α} (h : IsBody db work)
    (c : Connection) : c.Continues (work c).2 := by
  induction h generalizing c with
  | look f => exact .refl c
  | change x => exact continues_change x c
  | send s => exact continues_send db s c
  | @bind α β work next _ _ ih ihnext =>
    rcases hwork : work c with ⟨e | a, c'⟩
    · have hfirst := ih c
      rw [Attempt.bind_apply_of_error hwork]
      rwa [hwork] at hfirst
    · have hfirst := ih c
      rw [Attempt.bind_apply_of_ok hwork]
      rw [hwork] at hfirst
      exact hfirst.trans (ihnext a c')
  | @recover α work handler _ _ ih ihhandler =>
    rcases hwork : work c with ⟨e | a, c'⟩
    · have hfirst := ih c
      rw [Attempt.tryCatch_apply_of_error hwork]
      rw [hwork] at hfirst
      exact hfirst.trans (ihhandler e c')
    · have hfirst := ih c
      rw [Attempt.tryCatch_apply_of_ok hwork]
      rwa [hwork] at hfirst

def readOnlyText : SqlText := ⟨"SET TRANSACTION READ ONLY", []⟩

def timeoutText (milliseconds : Int) : SqlText :=
  ⟨"SET LOCAL statement_timeout = " ++ toString milliseconds, []⟩

/-- What a database is told before the work begins: nothing, or that the transaction only reads and
then how long a statement may take. -/
inductive Opens (db : Database) (timeout : Value) : List SqlText → Prop
  | plain (h : db.dialect = .sqlite) : Opens db timeout []
  | guarded {milliseconds : Int} (h : db.dialect = .postgres)
      (htimeout : timeout.toWhole = .ok milliseconds) :
      Opens db timeout [readOnlyText, timeoutText milliseconds]

/-- How far a database is told where that fails: the first statement, or what comes before the
second, or the second fails. -/
inductive BreaksOff (db : Database) (timeout : Value) : List SqlText → Prop
  | early (h : db.dialect = .postgres) : BreaksOff db timeout [readOnlyText]
  | late {milliseconds : Int} (h : db.dialect = .postgres)
      (htimeout : timeout.toWhole = .ok milliseconds) :
      BreaksOff db timeout [readOnlyText, timeoutText milliseconds]

theorem exists_send (db : Database) (s : SqlText) (c : Connection) :
    ∃ result c', send db s c = (result, c') ∧ c'.events = c.events ++ [.statement s] ∧
      c'.store = c.store := by
  have hstore : (send db s c).2.store = c.store := by
    unfold send
    dsimp only
    split <;> rfl
  exact ⟨(send db s c).1, (send db s c).2, rfl, events_send db s c, hstore⟩

theorem prepare_eq {db : Database} (h : db.dialect = .postgres) (timeout : Value) :
    prepare db timeout = (do
      send db readOnlyText
      let milliseconds ← attempt timeout.toWhole
      send db (timeoutText milliseconds)) := by
  unfold prepare
  rw [h]
  rfl

theorem prepare_cases (db : Database) (timeout : Value) (c : Connection) :
    (∃ told prepared, prepare db timeout c = (.ok (), prepared) ∧ Opens db timeout told ∧
        prepared.events = c.events ++ told.map .statement ∧ prepared.store = c.store) ∨
      ∃ e told prepared, prepare db timeout c = (.error e, prepared) ∧
        BreaksOff db timeout told ∧ prepared.events = c.events ++ told.map .statement := by
  cases hdialect : db.dialect with
  | sqlite =>
    have hprepare : prepare db timeout c = (.ok (), c) := by
      rw [prepare, hdialect]
      rfl
    exact .inl ⟨[], c, hprepare, .plain hdialect, (List.append_nil _).symm, rfl⟩
  | postgres =>
    -- Two statements, with the reading of the time limit in between; each of the three may fail.
    obtain ⟨first, c', hfirst, hevents, hstore⟩ := exists_send db readOnlyText c
    rw [prepare_eq hdialect]
    rcases first with e | ⟨⟩
    · exact .inr ⟨e, _, c', Attempt.bind_apply_of_error hfirst, .early hdialect, hevents⟩
    rw [Attempt.bind_apply_of_ok hfirst]
    have hnumber : attempt timeout.toWhole c' = (timeout.toWhole, c') := rfl
    cases htimeout : timeout.toWhole with
    | error e =>
      rw [htimeout] at hnumber
      exact .inr ⟨e, _, c', Attempt.bind_apply_of_error hnumber, .early hdialect, hevents⟩
    | ok milliseconds =>
      rw [htimeout] at hnumber
      obtain ⟨second, prepared, hsecond, hevents', hstore'⟩ :=
        exists_send db (timeoutText milliseconds) c'
      have htold : prepared.events =
          c.events ++ [readOnlyText, timeoutText milliseconds].map .statement := by
        rw [hevents', hevents, List.append_assoc]
        rfl
      rw [Attempt.bind_apply_of_ok hnumber, hsecond]
      rcases second with e | ⟨⟩
      · exact .inr ⟨e, _, prepared, rfl, .late hdialect htimeout, htold⟩
      · exact .inl ⟨_, prepared, rfl, .guarded hdialect htimeout, htold, hstore'.trans hstore⟩

theorem isBody_prepare (db : Database) (timeout : Value) : IsBody db (prepare db timeout) := by
  cases hdialect : db.dialect with
  | sqlite =>
    rw [prepare, hdialect]
    exact .look fun _ => .ok ()
  | postgres =>
    rw [prepare_eq hdialect]
    refine .bind (.send _) fun _ => ?_
    exact .bind (.look fun _ => timeout.toWhole) fun _ => .send _

/-- The course of a read-only transaction: its work runs on the store as it was, after the database
was told what it has to know, or the database cannot be told and the work never runs. Either way a
rollback comes last before the connection is closed, and there is no other. -/
inductive RollsBack {α : Type} (db : Database) (timeout : Value) (work : Work α) (c : Connection) :
    Prop
  | ran {prepared : Connection} {told sent : List SqlText} (hopens : Opens db timeout told)
      (hstore : prepared.store = c.store)
      (hprepared : prepared.events = c.events ++ [.connect, .start] ++ told.map .statement)
      (hsent : (work prepared).2.events = prepared.events ++ sent.map .statement)
      (hresult : (readOnly db timeout work c).1 = (work prepared).1)
      (hevents : (readOnly db timeout work c).2.events =
        (work prepared).2.events ++ [.rollback, .close])
  | refused {e : Failure} {told : List SqlText} (htold : BreaksOff db timeout told)
      (hfails : (prepare db timeout c.begun).1 = .error e)
      (hresult : (readOnly db timeout work c).1 = .error e)
      (hevents : (readOnly db timeout work c).2.events =
        c.events ++ [.connect, .start] ++ told.map .statement ++ [.rollback, .close])

section Transaction

variable {α : Type} {db : Database} {work : Work α} (h : IsBody db work) (timeout : Value)
  (c : Connection)
include h

theorem store_readOnly : (readOnly db timeout work c).2.store = c.store := by
  have hstarted : c.begun.saved = some c.store := rfl
  have hended : ∀ worked : Connection, c.begun.Continues worked →
      worked.ended.store = c.store := by
    intro worked hworked
    have hback : worked.ended.store = worked.saved.getD worked.store := rfl
    rw [hback, hworked.saved, hstarted, Option.getD_some]
  have hprepared := (isBody_prepare db timeout).continues c.begun
  rcases hprepare : prepare db timeout c.begun with ⟨e | ⟨⟩, prepared⟩
  · rw [hprepare] at hprepared
    rw [readOnly_of_error work hprepare]
    exact hended prepared hprepared
  · rw [hprepare] at hprepared
    rw [readOnly_of_ok work hprepare]
    exact hended _ (hprepared.trans (h.continues prepared))

theorem rollsBack_readOnly : RollsBack db timeout work c := by
  rcases prepare_cases db timeout c.begun with
    ⟨told, prepared, hprepare, hopens, hevents, hstore⟩ |
    ⟨e, told, prepared, hprepare, htold, hevents⟩
  · have hread := readOnly_of_ok work hprepare
    obtain ⟨sent, hsent⟩ := (h.continues prepared).events
    refine .ran hopens hstore ?_ hsent ?_ ?_
    · rw [hevents, events_begun]
    · rw [hread]
    · rw [hread, events_ended]
  · have hread := readOnly_of_error work hprepare
    refine .refused htold (by rw [hprepare]) ?_ ?_
    · rw [hread]
    · rw [hread, events_ended, hevents, events_begun]

end Transaction

def changing {α : Type} (changes : List Change) (ending : Attempt α) : Work α := do
  changes.forM change
  attempt ending

theorem isBody_changing (db : Database) {α : Type} (changes : List Change) (ending : Attempt α) :
    IsBody db (changing changes ending) := by
  have hchanges : IsBody db (changes.forM change) := by
    induction changes with
    | nil => exact .look fun _ => .ok ()
    | cons x rest ih => exact .bind (.change x) fun _ => ih
  exact .bind hchanges fun _ => .look fun _ => ending

end Connection

/-- What is asked of the store: a compiled query on a table, or a raw spec. -/
inductive StoreRequest where
  | execute (q : Query) (table : Option String)
  | runSpec (w : Whitelist) (raw : Value)

/-- A request with the database that it is sent to and the time limit there. -/
structure Call where
  database : Database
  timeout : Value
  request : StoreRequest

namespace Call

def work (call : Call) : Work Value :=
  match call.request with
  | .execute q table => do
    let rows ← q.execute call.database call.timeout table
    Connection.attempt (.ok (.list rows))
  | .runSpec w raw => do
    let spec ← Connection.attempt (w.validate raw)
    let rows ← (Query.ofSpec w spec).execute call.database call.timeout (some spec.table)
    Connection.attempt (.ok (Answer.toObject ⟨spec, rows⟩))

def answer (call : Call) (store : Store) : Attempt Value :=
  match call.request with
  | .execute q table => (q.rowsOn call.database store call.timeout table).map .list
  | .runSpec w raw => (runSpecOn call.database w store call.timeout raw).map Answer.toObject

/-- The answers of calls, each on a connection of its own to the store that the one before has
left, and the store in the end. -/
def session (store : Store) : List Call → List (Attempt Value) × Store
  | [] => ([], store)
  | call :: calls =>
    let done := call.work (Connection.fresh store)
    let others := session done.2.store calls
    (done.1 :: others.1, others.2)

end Call

theorem Query.store_execute (db : Database) (timeout : Value) (q : Query) (table : Option String)
    (c : Connection) : (execute db timeout q table c).2.store = c.store := by
  have hselect : Connection.IsBody db (selectBlogs db q) := by
    refine .bind (.look fun _ => Select.ofQuery q) fun s => ?_
    refine .bind (.look fun _ => Connection.convert db.dialect s) fun _ => ?_
    exact .bind (.send _) fun _ => .look fun store => db.fetch store s
  by_cases hblog : StoreTable.ofName? (q.servedTable table) = some .blog
  · rw [execute_blogs hblog]
    exact Connection.store_readOnly hselect timeout c
  · rw [execute_eq]
    split
    · rename_i hserved
      exact absurd hserved hblog
    · rfl

/-- Rows that are made into one value come from the store of the connection, which is left as it
is. -/
theorem Query.exists_execute (db : Database) (timeout : Value) (q : Query) (table : Option String)
    (store : Store) (whole : List Value → Value) :
    ∃ c : Connection, c.store = store ∧
      (execute db timeout q table >>= fun rows => Connection.attempt (.ok (whole rows)))
          (Connection.fresh store) =
        ((q.rowsOn db store timeout table).map whole, c) := by
  have hstore := store_execute db timeout q table (Connection.fresh store)
  rw [rowsOn]
  rcases hrun : execute db timeout q table (Connection.fresh store) with ⟨e | rows, c⟩
  · rw [hrun] at hstore
    exact ⟨c, hstore, Attempt.bind_apply_of_error hrun⟩
  · rw [hrun] at hstore
    exact ⟨c, hstore, Attempt.bind_apply_of_ok hrun⟩

namespace Call

theorem exists_work (call : Call) (store : Store) :
    ∃ c : Connection, c.store = store ∧
      call.work (Connection.fresh store) = (call.answer store, c) := by
  obtain ⟨db, timeout, request⟩ := call
  cases request with
  | execute q table => exact Query.exists_execute db timeout q table store .list
  | runSpec w raw =>
    unfold work answer
    dsimp only
    rw [runSpecOn]
    cases hvalid : w.validate raw with
    | error e =>
      have hattempt : Connection.attempt (.error e : Attempt Spec) (Connection.fresh store) =
          (.error e, Connection.fresh store) := rfl
      exact ⟨_, rfl, Attempt.bind_apply_of_error hattempt⟩
    | ok spec =>
      have hattempt : Connection.attempt (.ok spec) (Connection.fresh store) =
          (.ok spec, Connection.fresh store) := rfl
      obtain ⟨c, hstore, hrun⟩ := Query.exists_execute db timeout (Query.ofSpec w spec)
        (some spec.table) store fun rows => Answer.toObject ⟨spec, rows⟩
      refine ⟨c, hstore, ?_⟩
      rw [Attempt.bind_apply_of_ok hattempt, hrun, Attempt.ok_bind]
      cases (Query.ofSpec w spec).rowsOn db store timeout (some spec.table) <;> rfl

/-- Calls one after another are all answered from the first store, which is there to the end. -/
theorem session_eq (store : Store) (calls : List Call) :
    session store calls = (calls.map (·.answer store), store) := by
  induction calls with
  | nil => rfl
  | cons call calls ih =>
    obtain ⟨c, hstore, hwork⟩ := call.exists_work store
    rw [session, hwork, hstore, ih, List.map_cons]

end Call

/-- Work of changes and statements, whatever it comes to, leaves the store of a read-only
transaction as it was, its own failure is the one that leaves, and the rollback comes once and last.
So do calls one after another, and each of them has the answer that it has from the first store. -/
theorem Connection.readOnly_persists_nothing {db : Database} {α : Type} {work : Work α}
    (h : IsBody db work) (timeout : Value) (c : Connection) (calls : List Call) :
    (readOnly db timeout work c).2.store = c.store ∧ RollsBack db timeout work c ∧
      Call.session c.store calls = (calls.map (·.answer c.store), c.store) :=
  ⟨store_readOnly h timeout c, rollsBack_readOnly h timeout c, Call.session_eq c.store calls⟩

def Database.obedient : Database := { Database.embedded with dialect := .postgres }

def Connection.emptying : Work Unit :=
  changing [.clear .blog, .delete .user 1] (.error (.interrupted "stopped"))

/-- A query whose time limit is no number, so that its transaction does not open. -/
def Call.unopened : Call :=
  ⟨.obedient, .text "soon", .execute (Query.ofSpec Whitelist.standard Query.smallSpec) none⟩

theorem Connection.readOnly_persists_nothing_emptying :
    IsBody Database.obedient emptying ∧
      (emptying (fresh Query.smallStore)).2.store.blogs = [] ∧
      (readOnly Database.obedient (.int 5000) emptying (fresh Query.smallStore)).2.store =
        Query.smallStore ∧
      RollsBack Database.obedient (.int 5000) emptying (fresh Query.smallStore) ∧
      Call.session Query.smallStore [Call.unopened] =
        ([Call.unopened.answer Query.smallStore], Query.smallStore) := by
  have hbody : IsBody Database.obedient emptying := isBody_changing _ _ _
  have hempty : (emptying (fresh Query.smallStore)).2.store.blogs = [] := rfl
  exact ⟨hbody, hempty,
    readOnly_persists_nothing hbody (.int 5000) (fresh Query.smallStore) [Call.unopened]⟩

end QueryGate
