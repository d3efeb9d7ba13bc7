import QueryGate.Query.Basic
import QueryGate.Store.Schema
import QueryGate.Whitelist.Document

/-!
# Clauses of statements

A condition on a column becomes a clause; a clause is printed in one of two dialects, with its
values apart from its text. Values are bound as parameters in the order of their placeholders.
-/

set_option autoImplicit false

namespace QueryGate

inductive Dialect where
  | sqlite
  | postgres
deriving DecidableEq, Repr

structure ColumnRef where
  qualifier : String
  column : Column
deriving DecidableEq, Repr

inductive Comparison where
  | equal
  | less
  | lessOrEqual
  | greater
  | greaterOrEqual
deriving DecidableEq, Repr

/-- A test of one column. -/
inductive Clause where
  | isNull (c : ColumnRef)
  | isTruth (c : ColumnRef) (b : Bool)
  | compare (c : ColumnRef) (comparison : Comparison) (v : Value)
  | oneOf (c : ColumnRef) (vs : List Value)
  | like (c : ColumnRef) (pattern : String)

/-- The text of a statement or of a part of one, with the values of its placeholders in order. -/
structure SqlText where
  text : String
  params : List Value

namespace Clause

/-- A backslash in front of every backslash, percent sign and underscore. Backslashes are replaced
first, so that none that was put in is doubled. -/
def escapeLike (cs : List Char) : List Char :=
  Text.replaceChar '_' ['\\', '_']
    (Text.replaceChar '%' ['\\', '%'] (Text.replaceChar '\\' ['\\', '\\'] cs))

def containsPattern (needle : String) : String :=
  String.ofList ('%' :: (escapeLike needle.toList ++ ['%']))

def ordering (c : ColumnRef) (comparison : Comparison) (v : Value) : Attempt Clause :=
  match v with
  | .null | .bool _ => .error .unbuildable
  | v => .ok (.compare c comparison v)

def ofOperator (op : Operator) (c : ColumnRef) (v : Value) : Attempt Clause :=
  match op with
  | .equals =>
    match v with
    | .null => .ok (.isNull c)
    | .bool b => .ok (.isTruth c b)
    | v => .ok (.compare c .equal v)
  | .contains => .ok (.like c (containsPattern v.shown))
  | .oneOf => v.items.map (.oneOf c)
  | .below => ordering c .less v
  | .atMost => ordering c .lessOrEqual v
  | .above => ordering c .greater v
  | .atLeast => ordering c .greaterOrEqual v

def ofCondition (cond : Condition) (c : ColumnRef) : Attempt Clause :=
  match Operator.ofName? cond.op with
  | none => .error (.missingKey (.text cond.op))
  | some op => ofOperator op c cond.value

end Clause

namespace Sql

/-- Lower-case letters, digits and underscores, not starting with a digit, need no quotation. -/
def isPlainName (name : String) : Bool :=
  name.toList.all (fun c => ('a' ≤ c && c ≤ 'z') || ('0' ≤ c && c ≤ '9') || c == '_') &&
    !(name.toList.head?.any fun c => '0' ≤ c && c ≤ '9')

def quoteName (name : String) : String :=
  if isPlainName name then name else "\"" ++ name ++ "\""

def columnText (c : ColumnRef) : String := quoteName c.qualifier ++ "." ++ quoteName c.column.name

def placeholder : Dialect → String
  | .sqlite => "?"
  | .postgres => "%s"

def sign : Comparison → String
  | .equal => "="
  | .less => "<"
  | .lessOrEqual => "<="
  | .greater => ">"
  | .greaterOrEqual => ">="

def truthText : Dialect → Bool → String
  | .sqlite, b => if b then "1" else "0"
  | .postgres, b => if b then "true" else "false"

def emptyListText : Dialect → String
  | .sqlite => " IN (SELECT 1 FROM (SELECT 1) WHERE 1!=1)"
  | .postgres => " IN (NULL) AND (1 != 1)"

/-- The text of a clause with its values. -/
def clauseText (d : Dialect) : Clause → SqlText
  | .isNull c => ⟨columnText c ++ " IS NULL", []⟩
  | .isTruth c b => ⟨columnText c ++ " = " ++ truthText d b, []⟩
  | .compare c comparison v =>
    ⟨columnText c ++ " " ++ sign comparison ++ " " ++ placeholder d, [v]⟩
  | .oneOf c [] => ⟨columnText c ++ emptyListText d, []⟩
  | .oneOf c vs =>
    let marks := String.intercalate ", " (vs.map fun _ => placeholder d)
    ⟨columnText c ++ " IN (" ++ marks ++ ")", vs⟩
  | .like c pattern =>
    match d with
    | .sqlite =>
      ⟨"lower(" ++ columnText c ++ ") LIKE lower(" ++ placeholder d ++ ") ESCAPE '\\'",
        [.text pattern]⟩
    | .postgres =>
      ⟨columnText c ++ " ILIKE " ++ placeholder d ++ " ESCAPE '\\\\'", [.text pattern]⟩

end Sql

end QueryGate
