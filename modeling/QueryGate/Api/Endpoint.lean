import QueryGate.Chat
import QueryGate.Pipeline
import QueryGate.Store.Bounds
import QueryGate.Whitelist.Document

/-!
# Endpoints

What callers get for the content of their requests. The question endpoint answers every value with
a plain object: rows with their spec, or an error with its kind; failures that are not meant for
callers all give the same object.
-/

set_option autoImplicit false

namespace QueryGate

structure Service where
  settings : Settings
  whitelist : Whitelist
  store : Store
  network : Network

namespace Service

def maxQuestionLength : Nat := 2000

def noQuestion : Value := .object [("error", .text "No query")]

def questionTooLong : Value :=
  .object [("error", .text "Query too long"), ("kind", .text "query_too_long")]

def internalError : Value :=
  .object [("error", .text "Internal error"), ("kind", .text "internal_error")]

def ofResult : Attempt Answer → Value
  | .ok a => a.toObject
  | .error (.query e) => .object e.report
  | .error _ => internalError

def answerQuestionOn (db : Database) (s : Service) (question : Value) : Value :=
  match question with
  | .text q =>
    if Text.isAllBlank q then noQuestion
    else if maxQuestionLength < q.length then questionTooLong
    else ofResult (runQueryOn db s.settings s.whitelist s.store s.network none q)
  | _ => noQuestion

def answerQuestion (s : Service) (question : Value) : Value :=
  s.answerQuestionOn .sqlite question

def answerMessage (s : Service) (message : Value) : Attempt Value := do
  let outcome ← Chat.outcome s.settings [] s.network none message
  match readText outcome.text with
  | .ok text => .ok (.object [("text", .text text)])
  | .error details => .error (.invalid (details.map fun d =>
      { d with location := .key "text" :: d.location }))

def tableList (s : Service) : Value := .object [("tables", .list s.whitelist.tableNames)]

def checkNames (key : String) (names : List Value) : Checked Unit :=
  Checked.within (.key key) ((readList readText (.list names)).map fun _ => ())

def checkName (key : String) (name : Value) : Checked Unit :=
  Checked.within (.key key) ((readText name).map fun _ => ())

def checkAll : List (Checked Unit) → Checked Unit
  | [] => .ok ()
  | c :: rest => (Checked.both c (checkAll rest)).map fun _ => ()

def checkEach {α : Type} (check : α → Checked Unit) (position : Nat) : List α → Checked Unit
  | [] => .ok ()
  | x :: rest =>
    (Checked.both (Checked.within (.index position) (check x))
      (checkEach check (position + 1) rest)).map fun _ => ()

def checkRelation (r : Relation) : Checked Unit :=
  checkAll [checkName "name" r.name, checkName "table" r.table,
    checkNames "identifying" r.identifying]

def checkTable (t : Table) : Checked Unit :=
  checkAll [checkName "name" t.name, checkNames "fields" t.fields,
    Checked.within (.key "relations") (checkEach checkRelation 0 (t.relations.map (·.2)))]

def checkCatalog (w : Whitelist) : Checked Unit :=
  checkAll [Checked.within (.key "tables") (checkEach checkTable 0 (w.tables.map (·.2))),
    checkNames "default_fields" w.defaultFields]

def catalog (s : Service) : Attempt Value :=
  match checkCatalog s.whitelist with
  | .error details => .error (.invalid details)
  | .ok _ =>
    match s.whitelist.catalog with
    | .object members =>
      .ok (.object (members ++ [("operators", .list (Operator.names.map .text))]))
    | v => .ok v

end Service

end QueryGate
