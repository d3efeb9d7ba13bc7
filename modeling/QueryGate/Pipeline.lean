import QueryGate.Query.Execute
import QueryGate.Question.Translation
import QueryGate.Spec.Sanitize

/-!
# From questions to rows

`runSpec` validates a raw spec, compiles it and runs it against the store; `runQuery` finds the raw
spec for a question first. Failures of any step are passed on as they are. Both go to the database
that keeps its rows in the store itself; `runSpecOn` and `runQueryOn` go to any.
-/

set_option autoImplicit false

namespace QueryGate

structure Answer where
  spec : Spec
  rows : List Value

namespace Answer

def toObject (a : Answer) : Value :=
  .object [("spec", a.spec.toObject), ("rows", .list a.rows)]

end Answer

/-- Validates, compiles and runs a raw spec on a database; `timeout` is in milliseconds. -/
def runSpecOn (db : Database) (w : Whitelist) (store : Store) (timeout raw : Value) :
    Attempt Answer := do
  let spec ← w.validate raw
  let rows ← (Query.ofSpec w spec).rowsOn db store timeout (some spec.table)
  .ok ⟨spec, rows⟩

/-- Validates, compiles and runs a raw spec. -/
def runSpec (w : Whitelist) (store : Store) (timeout raw : Value) : Attempt Answer :=
  runSpecOn .embedded w store timeout raw

theorem runSpec_eq (w : Whitelist) (store : Store) (timeout raw : Value) :
    runSpec w store timeout raw = (do
      let spec ← w.validate raw
      let rows ← (Query.ofSpec w spec).rows store timeout (some spec.table)
      .ok ⟨spec, rows⟩) := rfl

def runQueryOn (db : Database) (s : Settings) (w : Whitelist) (store : Store) (network : Network)
    (given : Option String) (question : String) : Attempt Answer := do
  let raw ← Question.rawSpec s w network given question
  runSpecOn db w store s.statementTimeout raw

def runQuery (s : Settings) (w : Whitelist) (store : Store) (network : Network)
    (given : Option String) (question : String) : Attempt Answer :=
  runQueryOn .embedded s w store network given question

end QueryGate
