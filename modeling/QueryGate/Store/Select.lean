import QueryGate.Store.Bind

/-!
# Running selections

A selection runs over the blogs, each paired with its author where the selection joins them. It
keeps the pairs that pass every clause, newest blogs first, cuts them to the limit and returns the
requested cells. No cell of a blog or an author is null.
-/

set_option autoImplicit false

namespace QueryGate

/-- A blog, with its author where the selection joins the authors. -/
structure Match where
  blog : Blog
  author : Option User
deriving DecidableEq

namespace Match

def cell? (m : Match) (c : ColumnRef) : Option Cell :=
  if c.qualifier = Select.baseName then m.blog.cell? c.column.name
  else m.author.bind (·.cell? c.column.name)

def scalar (m : Match) (c : ColumnRef) : Scalar :=
  match m.cell? c with
  | some cell => cell.scalar
  | none => .null

end Match

namespace Comparison

def holds : Comparison → Ordering → Bool
  | .equal, o => o == .eq
  | .less, o => o == .lt
  | .lessOrEqual, o => o != .gt
  | .greater, o => o == .gt
  | .greaterOrEqual, o => o != .lt

def test (comparison : Comparison) (kind : ColumnKind) (cell v : Scalar) : Bool :=
  (cell.order (v.forColumn kind)).any comparison.holds

end Comparison

namespace BoundClause

def holds (m : Match) : BoundClause → Bool
  | .never => false
  | .compare c comparison v => comparison.test c.column.kind (m.scalar c) v
  | .oneOf c vs => vs.any fun v => Comparison.equal.test c.column.kind (m.scalar c) v
  | .like c pattern => (m.scalar c).like pattern

end BoundClause

namespace Store

def usersById (s : Store) (id : Int) : List User := s.users.filter (·.id == id)

def candidates (s : Store) (joinsAuthor : Bool) : List Match :=
  if joinsAuthor then s.blogs.flatMap fun b => (s.usersById b.userId).map fun u => ⟨b, some u⟩
  else s.blogs.map fun b => ⟨b, none⟩

end Store

/-- Does the first blog come before the second, or are they level? Later creation comes first, then
the greater id. -/
def Blog.comesFirst (a b : Blog) : Bool :=
  match Scalar.compareChars a.createdAt.storedText.toList b.createdAt.storedText.toList with
  | .gt => true
  | .lt => false
  | .eq => decide (b.id ≤ a.id)

namespace Select

def labels (s : Select) : List String :=
  s.outputs.map (·.2.label) ++ s.nested.map (·.output.label)

def cut {α : Type} (limit : Int) (rows : List α) : List α :=
  if limit < 0 then rows else rows.take limit.toNat

def outputValue (m : Match) (o : Output) : Value :=
  match m.cell? o.column with
  | some cell => cell.toValue
  | none => .null

def ownMembers (s : Select) (m : Match) : List (String × Value) :=
  s.outputs.map fun (name, o) => (name, outputValue m o)

/-- The member of a returned row that holds the columns of the author, if there are any. -/
def nestedMembers (s : Select) (m : Match) : List (String × Value) :=
  if s.nested.isEmpty then []
  else [(authorRelation, .object (s.nested.map fun n => (n.name, outputValue m n.output)))]

def row (s : Select) (m : Match) : Value := .object (s.ownMembers m ++ s.nestedMembers m)

def recordRow (s : Select) (record : List (String × StoredValue)) : Attempt Value := do
  let read (label : String) : Attempt Value :=
    match Assoc.get? label record with
    | some v => v.serialise
    | none => .error (.missingKey (.text label))
  let own ← s.outputs.mapM fun (name, o) => (read o.label).map fun v => (name, v)
  let nested ← s.nested.mapM fun n => (read n.output.label).map fun v => (n.name, v)
  .ok (.object (own ++ if nested.isEmpty then [] else [(authorRelation, .object nested)]))

def chosen (s : Select) (clauses : List BoundClause) (store : Store) : List Match :=
  let passing := (store.candidates s.joinsAuthor).filter fun m => clauses.all (·.holds m)
  cut s.limit (passing.mergeSort fun a b => a.blog.comesFirst b.blog)

def prepare (s : Select) : Attempt Unit :=
  if s.outputs.isEmpty && s.nested.isEmpty then .error (.store "near \"FROM\": syntax error")
  else .ok ()

/-- The clauses with their values handed over. The values are converted before the statement is
prepared, and handed over after that. -/
def handOver (s : Select) (prepared : Attempt Unit) : Attempt (List BoundClause) := do
  let converted ← s.clauses.mapM Clause.convert
  prepared
  let bounds ← converted.mapM Clause.bind
  let _ ← (Value.int s.limit).toScalar
  .ok bounds

/-- The rows for the matches found. A label that is there twice cannot be read from a row. -/
def answer (s : Select) (found : List Match) : Attempt (List Value) :=
  if found.isEmpty || decide s.labels.Nodup then .ok (found.map s.row)
  else .error .ambiguousColumn

/-- The rows of a selection. -/
def run (s : Select) (store : Store) : Attempt (List Value) := do
  let bounds ← s.handOver s.prepare
  s.answer (s.chosen bounds store)

end Select

end QueryGate
