import QueryGate.Json.Printer
import QueryGate.Question.Phrase
import QueryGate.Spec.Basic
import QueryGate.Text.Case

/-!
# Specs from keywords

Without a model a question is turned into a spec by its words: the keyword that comes first names
the table, the first short number is the limit, and a phrase may give one filter. The spec is
written as a document and read back like the reply of a model.
-/

set_option autoImplicit false

namespace QueryGate.Keywords

def vocabulary : List (String × List String) := [
  ("Blog", ["blog", "post", "article"]),
  ("User", ["user", "author", "member"]),
  ("Comment", ["comment", "reply", "replies"]),
  ("Tag", ["tag"]),
  ("Like", ["likes", "liked"]),
  ("Conversation", ["conversation", "chat", "group"]),
  ("Message", ["message"])]

def allowed (w : Whitelist) : List (String × String) :=
  (vocabulary.filter fun (table, _) => (w.table? (.text table)).isSome).flatMap
    fun (table, words) => words.map fun word => (table, word)

structure Mention where
  table : String
  position : Nat
deriving DecidableEq, Repr

def earlier (best : Option Mention) (m : Mention) : Option Mention :=
  match best with
  | none => some m
  | some b => if m.position < b.position then some m else some b

def firstMention (w : Whitelist) (q : List Char) : Option Mention :=
  ((allowed w).filterMap fun (table, word) =>
    (Text.find? word.toList q).map fun position => ⟨table, position⟩).foldl earlier none

def usualTable (w : Whitelist) : Attempt Value :=
  if w.tableNames.any (·.same (.text "Blog")) then .ok (.text "Blog")
  else
    match w.tableNames with
    | name :: _ => .ok name
    | [] => .error (.outOfRange false)

def table (w : Whitelist) (q : List Char) : Attempt Value :=
  match firstMention w q with
  | some m => .ok (.text m.table)
  | none => usualTable w

/-- The number that one to four digits write at the front, if no further character of a word
follows. -/
def numberHere? (cs : List Char) : Option Nat :=
  let ds := cs.takeWhile Text.isDigit
  if 1 ≤ ds.length ∧ ds.length ≤ 4 ∧ (cs.drop ds.length).head?.all (!Text.isWord ·) then
    some (Numeral.ofDigits (ds.filterMap Text.digitValue?))
  else none

/-- The first such number that starts a word; `inWord` says whether a character of a word stands
just before. -/
def limitFrom (inWord : Bool) : List Char → Option Nat
  | [] => none
  | c :: rest =>
    match if inWord then none else numberHere? (c :: rest) with
    | some n => some n
    | none => limitFrom (Text.isWord c) rest

def limit? (q : List Char) : Option Nat := limitFrom false q

def entry (field : String) (op : Operator) (value : List Char) : Value :=
  .object [("field", .text field), ("op", .text op.name), ("value", .text (String.ofList value))]

def filterable (w : Whitelist) (table : Value) (field : String) : Bool := w.resolves table field

def filters (w : Whitelist) (table : Value) (question : List Char) : List Value :=
  let byTitle : List Value :=
    match Phrase.content? question with
    | some words => if filterable w table "title" then [entry "title" .contains words] else []
    | none => []
  match Phrase.author? question with
  | some name =>
    if filterable w table "user.username" then [entry "user.username" .equals name] else byTitle
  | none => byTitle

def spec (w : Whitelist) (question : String) : Attempt Value := do
  let q := Text.trimBy Text.isBlank (Text.lower question).toList
  let table ← table w q
  let limit : List (String × Value) := match limit? q with
    | some n => [("limit", .int n)]
    | none => []
  .ok (.object ([("action", .text Spec.action), ("table", table),
    ("filters", .list (filters w table (Text.trimBy Text.isBlank question.toList)))] ++ limit))

def reply (w : Whitelist) (question : String) : Attempt String := do
  let spec ← spec w question
  match spec.memberD "table" with
  | .day _ | .moment _ => .error .unwritable
  | _ => .ok (Json.write .spaced spec)

end QueryGate.Keywords
