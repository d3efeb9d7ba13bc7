import QueryGate.Whitelist.Basic

/-!
# The standard whitelist

The whitelist of the blog that the service runs with when it is given no other.
-/

set_option autoImplicit false

namespace QueryGate.Whitelist

def names (ns : List String) : List Value := ns.map .text

def simpleTable (name : String) (fields : List String) : Value × Table :=
  (.text name, ⟨.text name, names fields, []⟩)

def authorRelation : Relation := ⟨.text "user", .text "User", names ["id", "username"]⟩

def standard : Whitelist where
  version := .int 1
  tables := [
    (.text "Blog",
      ⟨.text "Blog",
        names ["id", "title", "content", "userId", "likeCount", "createdAt", "updatedAt"],
        [(.text "user", authorRelation)]⟩),
    simpleTable "User" ["id", "username", "email", "createdAt", "updatedAt"],
    simpleTable "Comment" ["id", "content", "userId", "blogId", "createdAt"],
    simpleTable "Tag" ["id", "name", "blogId", "createdAt"],
    simpleTable "Like" ["id", "userId", "blogId", "createdAt"],
    simpleTable "Conversation" ["id", "title", "isGroup", "createdAt"],
    simpleTable "Message" ["id", "content", "senderId", "conversationId", "createdAt"]]
  defaultFields := names ["id", "title", "createdAt"]
  defaultLimit := 10
  maxLimit := 100

end QueryGate.Whitelist
