import QueryGate.Sql.Clause

/-!
# Selections

A compiled query on blogs becomes a `Select`: columns with their labels, the join to the authors
where the query crosses that relation, clauses, and a limit. `Select.ofQuery` finds every name that
the store lacks; `Sql.selectText` prints the statement.
-/

set_option autoImplicit false

namespace QueryGate

structure Output where
  column : ColumnRef
  label : String
deriving DecidableEq, Repr

/-- A column of a related row, returned within the object of its relation. -/
structure NestedOutput where
  relation : String
  name : String
  output : Output
deriving DecidableEq, Repr

/-- A selection of blogs, newest first. -/
structure Select where
  outputs : List (String × Output)
  nested : List NestedOutput
  joinsAuthor : Bool
  clauses : List Clause
  limit : Int

namespace Select

def baseName : String := "Blog"

def authorRelation : String := "user"

def relatedName (relation : String) : String := relation ++ "_rel"

def nestedLabel (relation column : String) : String := relation ++ "__" ++ column

def findColumn (qualifier : String) (columns : List Column) (name : String) : Attempt ColumnRef :=
  match columns.find? (·.name == name) with
  | some c => .ok ⟨qualifier, c⟩
  | none => .error (.missingKey (.text name))

def baseColumn (name : String) : Attempt ColumnRef := findColumn baseName blogColumns name

def authorColumn (name : String) : Attempt ColumnRef :=
  findColumn (relatedName authorRelation) userColumns name

def clausesOf (column : String → Attempt ColumnRef) (conditions : Conditions) :
    Attempt (List Clause) :=
  let groups := conditions.mapM fun (name, conds) =>
    conds.mapM fun cond => (column name).bind (Clause.ofCondition cond)
  groups.map List.flatten

def identifyingOutput (v : Value) : Attempt NestedOutput :=
  match v with
  | .text name => do
    let c ← authorColumn name
    .ok ⟨authorRelation, name, c, nestedLabel authorRelation name⟩
  | v => .error (.missingKey v)

def addRelation (identifying : List (String × List Value)) (s : Select)
    (group : String × Conditions) : Attempt Select :=
  let (relation, conditions) := group
  if relation = authorRelation then do
    let clauses ← clausesOf authorColumn conditions
    let nested ← ((Assoc.get? relation identifying).getD []).mapM identifyingOutput
    .ok { s with
      joinsAuthor := true, clauses := s.clauses ++ clauses, nested := s.nested ++ nested }
  else .error (.query (.unimplementedTable (baseName ++ "." ++ relation)))

def ofQuery (q : Query) : Attempt Select := do
  let outputs ← q.projection.mapM fun name => do
    let c ← baseColumn name
    .ok (name, (⟨c, name⟩ : Output))
  let clauses ← clausesOf baseColumn q.predicate.fields
  q.predicate.relations.foldlM (addRelation q.relationProjection)
    ⟨outputs, [], false, clauses, q.limit⟩

end Select

namespace Sql

def outputText (o : Output) : String := columnText o.column ++ " AS " ++ quoteName o.label

def whereText (d : Dialect) (clauses : List Clause) : SqlText :=
  let texts := clauses.map (clauseText d)
  ⟨String.intercalate " AND " (texts.map (·.text)), texts.flatMap (·.params)⟩

/-- The end of a statement: the limit, and for the first dialect that no row is skipped. -/
def rangeText : Dialect → String
  | .sqlite => " LIMIT ? OFFSET ?"
  | .postgres => " LIMIT %s"

def rangeParams (d : Dialect) (limit : Int) : List Value :=
  match d with
  | .sqlite => [.int limit, .int 0]
  | .postgres => [.int limit]

/-- The statement of a selection. -/
def selectText (d : Dialect) (s : Select) : SqlText :=
  let outputs := s.outputs.map (·.2) ++ s.nested.map (·.output)
  let conditions := whereText d s.clauses
  ⟨"SELECT " ++ String.intercalate ", " (outputs.map outputText) ++
      " FROM \"Blog\"" ++
      (if s.joinsAuthor then " JOIN \"User\" AS user_rel ON \"Blog\".\"userId\" = user_rel.id"
       else "") ++
      (if s.clauses.isEmpty then "" else " WHERE " ++ conditions.text) ++
      " ORDER BY \"Blog\".\"createdAt\" DESC, \"Blog\".id DESC" ++ rangeText d,
    conditions.params ++ rangeParams d s.limit⟩

end Sql

end QueryGate
