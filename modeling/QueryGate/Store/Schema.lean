/-!
# The tables of the store

The columns of each table with the kind of their values. Queries are served for blogs, which a
relation leads from to their authors.
-/

set_option autoImplicit false

namespace QueryGate

inductive ColumnKind where
  | integer
  | text
  | moment
deriving DecidableEq, Repr

structure Column where
  name : String
  kind : ColumnKind
deriving DecidableEq, Repr

inductive StoreTable where
  | user
  | blog
  | comment
  | tag
  | like
  | conversation
  | message
deriving DecidableEq, Repr

namespace StoreTable

def all : List StoreTable := [.user, .blog, .comment, .tag, .like, .conversation, .message]

def name : StoreTable → String
  | .user => "User"
  | .blog => "Blog"
  | .comment => "Comment"
  | .tag => "Tag"
  | .like => "Like"
  | .conversation => "Conversation"
  | .message => "Message"

def ofName? (name : String) : Option StoreTable := all.find? (·.name == name)

end StoreTable

def blogColumns : List Column :=
  [⟨"id", .integer⟩, ⟨"title", .text⟩, ⟨"content", .text⟩, ⟨"userId", .integer⟩,
    ⟨"likeCount", .integer⟩, ⟨"createdAt", .moment⟩, ⟨"updatedAt", .moment⟩]

def userColumns : List Column :=
  [⟨"id", .integer⟩, ⟨"username", .text⟩, ⟨"email", .text⟩, ⟨"createdAt", .moment⟩,
    ⟨"updatedAt", .moment⟩]

end QueryGate
