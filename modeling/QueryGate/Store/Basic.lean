import QueryGate.Calendar
import QueryGate.Failure
import QueryGate.Number.Binary64
import QueryGate.Store.Schema

/-!
# The store

Rows of each table, in the order in which they were inserted, and the cells of blogs and authors by
column name.
-/

set_option autoImplicit false

namespace QueryGate

structure User where
  id : Int
  username : String
  email : String
  createdAt : Timestamp
  updatedAt : Timestamp
deriving DecidableEq

structure Blog where
  id : Int
  title : String
  content : String
  userId : Int
  likeCount : Int
  createdAt : Timestamp
  updatedAt : Timestamp
deriving DecidableEq

structure Comment where
  id : Int
  content : String
  userId : Int
  blogId : Int
  createdAt : Timestamp
deriving DecidableEq

structure Tag where
  id : Int
  name : String
  blogId : Int
  createdAt : Timestamp
deriving DecidableEq

structure Like where
  id : Int
  userId : Int
  blogId : Int
  createdAt : Timestamp
deriving DecidableEq

/-- A row of the conversation table; a row may be inserted without any of its values. -/
structure Conversation where
  id : Int
  title : Option String
  isGroup : Bool
  createdAt : Option Timestamp
deriving DecidableEq

structure Message where
  id : Int
  content : String
  senderId : Int
  conversationId : Int
  createdAt : Timestamp
deriving DecidableEq

/-- The content of the store. -/
structure Store where
  users : List User
  blogs : List Blog
  comments : List Comment
  tags : List Tag
  likes : List Like
  conversations : List Conversation
  messages : List Message
deriving DecidableEq

namespace Store

def empty : Store := ⟨[], [], [], [], [], [], []⟩

def count (s : Store) : StoreTable → Nat
  | .user => s.users.length
  | .blog => s.blogs.length
  | .comment => s.comments.length
  | .tag => s.tags.length
  | .like => s.likes.length
  | .conversation => s.conversations.length
  | .message => s.messages.length

def counts (s : Store) : List (StoreTable × Nat) := StoreTable.all.map fun t => (t, s.count t)

end Store

/-- What a column of a blog or of an author holds. -/
inductive Cell where
  | int (n : Int)
  | text (s : String)
  | moment (t : Timestamp)
deriving DecidableEq

namespace Cell

def toValue : Cell → Value
  | .int n => .int n
  | .text s => .text s
  | .moment t => .text t.isoText

end Cell

def Blog.cell? (b : Blog) (name : String) : Option Cell :=
  match name with
  | "id" => some (.int b.id)
  | "title" => some (.text b.title)
  | "content" => some (.text b.content)
  | "userId" => some (.int b.userId)
  | "likeCount" => some (.int b.likeCount)
  | "createdAt" => some (.moment b.createdAt)
  | "updatedAt" => some (.moment b.updatedAt)
  | _ => none

def User.cell? (u : User) (name : String) : Option Cell :=
  match name with
  | "id" => some (.int u.id)
  | "username" => some (.text u.username)
  | "email" => some (.text u.email)
  | "createdAt" => some (.moment u.createdAt)
  | "updatedAt" => some (.moment u.updatedAt)
  | _ => none

inductive StoredValue where
  | plain (v : Value)
  | decimal (text : String)
  | span (s : Span)

namespace StoredValue

/-- The float nearest to an exact decimal number, whose underscores do not count. The text may say
that it is no number, with digits behind that; of such texts, one that signals has no float. -/
def floatOfDecimal (text : String) : Attempt Binary64 :=
  let cs := (Text.trimBy Text.isBlank text.toList).filterMap fun c =>
    if c = '_' then none else some (Text.asciiLower c)
  let unsigned := (Numeral.sign cs).2
  match List.isPrefixOf? "snan".toList unsigned, List.isPrefixOf? "nan".toList unsigned with
  | some payload, _ =>
    .error (if payload.all Text.isDigit then .badValue "cannot convert signaling NaN to float"
      else .unreadableDecimal)
  | none, some payload => if payload.all Text.isDigit then .ok .nan else .error .unreadableDecimal
  | none, none =>
    match Binary64.read? cs with
    | some x => .ok x
    | none => .error .unreadableDecimal

/-- The value in a form that documents can hold: decimal numbers as floats, times as text. -/
def serialise : StoredValue → Attempt Value
  | .plain (.moment t) => .ok (.text t.isoText)
  | .plain (.day d) => .ok (.text d.isoText)
  | .plain v => .ok v
  | .decimal text => (floatOfDecimal text).map .float
  | .span s => .ok (.text s.text)

end StoredValue

end QueryGate
