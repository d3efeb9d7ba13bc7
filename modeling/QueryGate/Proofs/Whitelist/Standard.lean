import Mathlib.Data.List.Permutation
import QueryGate.Whitelist.Document
import QueryGate.Whitelist.Standard

/-!
# The standard whitelist as a document

The document that the standard whitelist is read from.
-/

set_option autoImplicit false

namespace QueryGate.Whitelist

def tableDocument (name : String) (fields : List String) (relations : List Value) : Value :=
  .object [("name", .text name), ("fields", .list (names fields)), ("relations", .list relations)]

def standardDocument : Value :=
  .object [("version", .int 1),
    ("defaults", .object [("fields", .list (names ["id", "title", "createdAt"])),
      ("limit", .int 10), ("max_limit", .int 100)]),
    ("tables", .list [
      tableDocument "Blog"
        ["id", "title", "content", "userId", "likeCount", "createdAt", "updatedAt"]
        [.object [("name", .text "user"), ("table", .text "User"),
          ("identifying", .list (names ["id", "username"]))]],
      tableDocument "User" ["id", "username", "email", "createdAt", "updatedAt"] [],
      tableDocument "Comment" ["id", "content", "userId", "blogId", "createdAt"] [],
      tableDocument "Tag" ["id", "name", "blogId", "createdAt"] [],
      tableDocument "Like" ["id", "userId", "blogId", "createdAt"] [],
      tableDocument "Conversation" ["id", "title", "isGroup", "createdAt"] [],
      tableDocument "Message" ["id", "content", "senderId", "conversationId", "createdAt"] []])]

theorem ofDocument_standardDocument : ofDocument standardDocument = .ok standard := by
  cbv

theorem textual_standard : standard.Textual where
  tables := by simp [standard, simpleTable]
  fields := by simp [standard, simpleTable, names]
  relations := by simp [standard, simpleTable, names, authorRelation]
  defaultFields := by simp [standard, names]

end QueryGate.Whitelist
