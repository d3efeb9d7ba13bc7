import QueryGate.Failure
import QueryGate.Store.Basic

/-!
# Changes to the store

Statements that change the store, one `Change` each. A change fails as a whole when it would leave
two rows of a table with one id, or two users with one name or address.
-/

set_option autoImplicit false

namespace QueryGate

inductive Row where
  | user (row : User)
  | blog (row : Blog)
  | comment (row : Comment)
  | tag (row : Tag)
  | like (row : Like)
  | conversation (row : Conversation)
  | message (row : Message)
deriving DecidableEq

inductive Change where
  | insert (rows : List Row)
  | insertBlank (table : StoreTable)
  | update (row : Row)
  | delete (table : StoreTable) (id : Int)
  | clear (table : StoreTable)
deriving DecidableEq

namespace Store

def insertRow (s : Store) : Row → Attempt Store
  | .user u =>
    if s.users.any fun v => v.id == u.id || v.username == u.username || v.email == u.email then
      .error .integrity
    else .ok { s with users := s.users ++ [u] }
  | .blog b =>
    if s.blogs.any (·.id == b.id) then .error .integrity
    else .ok { s with blogs := s.blogs ++ [b] }
  | .comment c =>
    if s.comments.any (·.id == c.id) then .error .integrity
    else .ok { s with comments := s.comments ++ [c] }
  | .tag t =>
    if s.tags.any (·.id == t.id) then .error .integrity
    else .ok { s with tags := s.tags ++ [t] }
  | .like l =>
    if s.likes.any (·.id == l.id) then .error .integrity
    else .ok { s with likes := s.likes ++ [l] }
  | .conversation c =>
    if s.conversations.any (·.id == c.id) then .error .integrity
    else .ok { s with conversations := s.conversations ++ [c] }
  | .message m =>
    if s.messages.any (·.id == m.id) then .error .integrity
    else .ok { s with messages := s.messages ++ [m] }

def nextId (ids : List Int) : Int := ids.foldl max 0 + 1

def updateRow (s : Store) : Row → Attempt Store
  | .user u =>
    if s.users.any fun v => v.id != u.id && (v.username == u.username || v.email == u.email) then
      .error .integrity
    else .ok { s with users := s.users.map fun v => if v.id = u.id then u else v }
  | .blog b => .ok { s with blogs := s.blogs.map fun v => if v.id = b.id then b else v }
  | .comment c => .ok { s with comments := s.comments.map fun v => if v.id = c.id then c else v }
  | .tag t => .ok { s with tags := s.tags.map fun v => if v.id = t.id then t else v }
  | .like l => .ok { s with likes := s.likes.map fun v => if v.id = l.id then l else v }
  | .conversation c =>
    .ok { s with conversations := s.conversations.map fun v => if v.id = c.id then c else v }
  | .message m => .ok { s with messages := s.messages.map fun v => if v.id = m.id then m else v }

def deleteRow (s : Store) (id : Int) : StoreTable → Store
  | .user => { s with users := s.users.filter (·.id != id) }
  | .blog => { s with blogs := s.blogs.filter (·.id != id) }
  | .comment => { s with comments := s.comments.filter (·.id != id) }
  | .tag => { s with tags := s.tags.filter (·.id != id) }
  | .like => { s with likes := s.likes.filter (·.id != id) }
  | .conversation => { s with conversations := s.conversations.filter (·.id != id) }
  | .message => { s with messages := s.messages.filter (·.id != id) }

def clear (s : Store) : StoreTable → Store
  | .user => { s with users := [] }
  | .blog => { s with blogs := [] }
  | .comment => { s with comments := [] }
  | .tag => { s with tags := [] }
  | .like => { s with likes := [] }
  | .conversation => { s with conversations := [] }
  | .message => { s with messages := [] }

def apply (s : Store) : Change → Attempt Store
  | .insert rows => rows.foldlM insertRow s
  | .insertBlank table =>
    match table with
    | .conversation =>
      let id := nextId (s.conversations.map (·.id))
      .ok { s with conversations := s.conversations ++ [⟨id, none, false, none⟩] }
    | _ => .error .integrity
  | .update row => s.updateRow row
  | .delete table id => .ok (s.deleteRow id table)
  | .clear table => .ok (s.clear table)

def applyAll (s : Store) (changes : List Change) : Attempt Store := changes.foldlM apply s

def commit (s : Store) (changes : List Change) : Attempt Unit × Store :=
  match s.applyAll changes with
  | .ok s' => (.ok (), s')
  | .error e => (.error e, s)

end Store

end QueryGate
