import QueryGate.Store.Change

/-!
# The rows of a store, table by table

`Store.rows` gives the rows of a table in order, `Row.toObject` a row as an object.
-/

set_option autoImplicit false

namespace QueryGate

/-- The rows of a table. -/
def Store.rows (s : Store) : StoreTable → List Row
  | .user => s.users.map .user
  | .blog => s.blogs.map .blog
  | .comment => s.comments.map .comment
  | .tag => s.tags.map .tag
  | .like => s.likes.map .like
  | .conversation => s.conversations.map .conversation
  | .message => s.messages.map .message

namespace Row

def moment (t : Timestamp) : Value := .text t.isoText

def toObject : Row → Value
  | .user u =>
    .object [("id", .int u.id), ("username", .text u.username), ("email", .text u.email),
      ("createdAt", moment u.createdAt), ("updatedAt", moment u.updatedAt)]
  | .blog b =>
    .object [("id", .int b.id), ("title", .text b.title), ("content", .text b.content),
      ("userId", .int b.userId), ("likeCount", .int b.likeCount), ("createdAt", moment b.createdAt),
      ("updatedAt", moment b.updatedAt)]
  | .comment c =>
    .object [("id", .int c.id), ("content", .text c.content), ("userId", .int c.userId),
      ("blogId", .int c.blogId), ("createdAt", moment c.createdAt)]
  | .tag t =>
    .object [("id", .int t.id), ("name", .text t.name), ("blogId", .int t.blogId),
      ("createdAt", moment t.createdAt)]
  | .like l =>
    .object [("id", .int l.id), ("userId", .int l.userId), ("blogId", .int l.blogId),
      ("createdAt", moment l.createdAt)]
  | .conversation c =>
    .object [("id", .int c.id), ("title", c.title.elim .null .text), ("isGroup", .bool c.isGroup),
      ("createdAt", c.createdAt.elim .null moment)]
  | .message m =>
    .object [("id", .int m.id), ("content", .text m.content), ("senderId", .int m.senderId),
      ("conversationId", .int m.conversationId), ("createdAt", moment m.createdAt)]

end Row

end QueryGate
