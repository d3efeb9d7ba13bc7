import QueryGate.Store.Connection

/-!
# What the embedded store bears

The store that the service runs on refuses statements and texts that are too large, and gives up
where it comes upon a search pattern that is too long. It looks rows up by their keys instead of
going through all of them, and a look-up finds the least integer by itself only, although a
comparison finds it equal to a real number.

Which keys are looked up, and in which order the clauses are tried, is the choice of the store. The
choices here are those that it makes for a few clauses on different columns. Within its bounds none
of them shows in the rows.
-/

set_option autoImplicit false

namespace QueryGate

def Scalar.text? : Scalar → Option String
  | .text s => some s
  | _ => none

def Clause.isEmptyList : Clause → Bool
  | .oneOf _ [] => true
  | _ => false

def Clause.depth : Clause → Nat
  | .like _ _ => 4
  | _ => 3

def BoundClause.texts : BoundClause → List String
  | .never => []
  | .compare _ _ v => v.text?.toList
  | .oneOf _ vs => vs.filterMap Scalar.text?
  | .like _ pattern => [pattern]

def BoundClause.isTooLarge (b : BoundClause) : Bool :=
  b.texts.any fun t => decide (1000000000 < t.utf8ByteSize)

def BoundClause.isTooLong : BoundClause → Bool
  | .like _ pattern => decide (50000 < pattern.utf8ByteSize)
  | _ => false

namespace Select

def checkTexts (bounds : List BoundClause) : Attempt Unit :=
  if bounds.any BoundClause.isTooLarge then .error (.store "string or blob too big") else .ok ()

/-- How deep the condition of a statement is. Clauses are joined from the left, the condition of a
join behind them, and a selection in place of a list counts on top. -/
def depth (s : Select) : Nat :=
  let clauses := match s.clauses with
    | [] => 0
    | c :: rest => rest.foldl (fun n c => max n c.depth + 1) c.depth
  let joined := if s.joinsAuthor then max clauses 3 + 1 else clauses
  if s.clauses.any Clause.isEmptyList then joined + 2 else joined

/-- A statement may have so many parameters and columns, and a condition of such a depth. -/
def prepareBounded (s : Select) : Attempt Unit := do
  s.prepare
  if 32766 < (Sql.selectText .sqlite s).params.length then
    .error (.store "too many SQL variables")
  else if 1000 < s.depth then
    .error (.store "Expression tree is too large (maximum depth 1000)")
  else if 2000 < s.labels.length then .error (.store "too many columns in result set")
  else .ok ()

end Select

namespace ColumnRef

def isBlogKey (c : ColumnRef) : Bool := c.qualifier == Select.baseName && c.column.name == "id"

def isAuthorKey (c : ColumnRef) : Bool := c.qualifier != Select.baseName && c.column.name == "id"

def isReference (c : ColumnRef) : Bool :=
  c.qualifier == Select.baseName && c.column.name == "userId"

/-- Rows are looked up by the column. A blog that is joined with its author can be looked up through
its reference. -/
def isKey (joinsAuthor : Bool) (c : ColumnRef) : Bool :=
  c.isBlogKey || joinsAuthor && (c.isAuthorKey || c.isReference)

end ColumnRef

namespace Scalar

def least : Scalar := .int (-0x8000000000000000)

def isReal : Scalar → Bool
  | .real _ => true
  | _ => false

def finds (kind : ColumnKind) (v key : Scalar) : Bool :=
  Comparison.equal.test kind key v && !(key == least && (v.forColumn kind).isReal)

/-- Does a look-up by one of the values find the key? Of values that are equal the last one is
kept. -/
def oneFinds (kind : ColumnKind) (vs : List Scalar) (key : Scalar) : Bool :=
  (vs.reverse.find? fun v => Comparison.equal.test kind key v).any (·.finds kind key)

end Scalar

namespace BoundClause

def wanted? (isSuch : ColumnRef → Bool) : BoundClause → Option (ColumnRef × List Scalar)
  | .compare c .equal v => if isSuch c then some (c, [v]) else none
  | .oneOf c vs => if isSuch c then some (c, vs) else none
  | _ => none

def isKeyBound (above : Bool) : BoundClause → Bool
  | .compare c .less _ | .compare c .lessOrEqual _ => above && c.isBlogKey
  | .compare c .greater _ | .compare c .greaterOrEqual _ => !above && c.isBlogKey
  | _ => false

def isNever : BoundClause → Bool
  | .never => true
  | _ => false

def holdsBounded (m : Match) (b : BoundClause) : Attempt Bool :=
  if b.isTooLong then .error (.store "LIKE or GLOB pattern too complex") else .ok (b.holds m)

end BoundClause

abbrev Lookup := ColumnRef × List Scalar

namespace Lookup

def shorter (x : Option Lookup) (y : Lookup) : Option Lookup :=
  match x with
  | none => some y
  | some x => if y.2.length < x.2.length then some y else some x

/-- The shortest look-up that the clauses allow in some columns, those first that come first. -/
def shortest (columns : List (ColumnRef → Bool)) (clauses : List BoundClause) : Option Lookup :=
  (columns.flatMap fun isSuch => clauses.filterMap (·.wanted? isSuch)).foldl shorter none

def finds (l : Lookup) (m : Match) : Bool :=
  Scalar.oneFinds l.1.column.kind l.2 (m.scalar l.1)

end Lookup

namespace Select

/-- The look-ups of a selection: of the blog, and of a joined author. Of an author a list is looked
up only where it is short and the blog is not looked up already. -/
def lookups (s : Select) (clauses : List BoundClause) : List Lookup :=
  let blog := Lookup.shortest [ColumnRef.isBlogKey] clauses
  let author := Lookup.shortest [ColumnRef.isAuthorKey, ColumnRef.isReference] clauses
  let isShort (l : Lookup) : Bool := l.2.length ≤ 1 || blog.isNone && l.2.length ≤ 4
  blog.toList ++ if s.joinsAuthor then (author.filter isShort).toList else []

def keyBounds (clauses : List BoundClause) : List BoundClause :=
  if (Lookup.shortest [ColumnRef.isBlogKey] clauses).isSome then []
  else (clauses.find? (·.isKeyBound true)).toList ++ (clauses.find? (·.isKeyBound false)).toList

def visited (s : Select) (clauses : List BoundClause) (store : Store) : List Match :=
  if s.limit = 0 ∨ clauses.any BoundClause.isNever then []
  else (store.candidates s.joinsAuthor).filter fun m =>
    (s.lookups clauses).all (·.finds m) && (keyBounds clauses).all (·.holds m)

/-- Does a match pass every clause? They are tried in order, up to the first that does not hold. -/
def passes (m : Match) : List BoundClause → Attempt Bool
  | [] => .ok true
  | b :: rest => do if ← b.holdsBounded m then passes m rest else .ok false

def passing (clauses : List BoundClause) : List Match → Attempt (List Match)
  | [] => .ok []
  | m :: rest => do
    let isPassed ← passes m clauses
    let found ← passing clauses rest
    .ok (if isPassed then m :: found else found)

/-- The rows of a selection, as far as the store bears it. -/
def runBounded (s : Select) (store : Store) : Attempt (List Value) := do
  let bounds ← s.handOver s.prepareBounded
  checkTexts bounds
  let found ← passing bounds (s.visited bounds store)
  s.answer (cut s.limit (found.mergeSort fun a b => a.blog.comesFirst b.blog))

end Select

/-- The database that the service runs on. -/
def Database.sqlite : Database := ⟨.sqlite, fun store s => s.runBounded store, fun _ => none⟩

end QueryGate
