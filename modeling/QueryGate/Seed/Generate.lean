import QueryGate.Seed.Draw
import QueryGate.Store.Basic
import QueryGate.Text.Basic

/-!
# Generated rows

A small blog with all its tables, drawn from a supply: ids count from one in every table, names of
users differ, rows refer to rows that were generated, no blog is older than its author, and the like
count of a blog is the number of its likes.
-/

set_option autoImplicit false

namespace QueryGate.Seed

structure Sizes where
  users : Nat := 50
  blogs : Nat := 400
  comments : Nat := 1500
  tags : Nat := 800
  likes : Nat := 2000
  conversations : Nat := 40
  messages : Nat := 600
deriving DecidableEq, Repr

def tagNames : List String :=
  ["python", "sql", "travel", "food", "music", "startups", "design", "ml", "devops", "books",
    "fitness", "photography"]

variable {σ : Type}

def rowsFrom {α : Type} (make : Int → Draw σ α) (id : Int) : Nat → Draw σ (List α)
  | 0 => pure []
  | n + 1 => do
    let row ← make id
    let rows ← rowsFrom make (id + 1) n
    pure (row :: rows)

def numbered {α : Type} (make : Int → Draw σ α) (count : Nat) : Draw σ (List α) :=
  rowsFrom make 1 count

/-- Users are added, each under a name not seen before and with the next id, until there are enough
or the rounds are used up. -/
def usersWith (s : Supply σ) (count : Nat) :
    Nat → (uid : Int) → (seen : List String) → List User → Draw σ (List User)
  | 0, _, _, users => if users.length < count then throw .drawLimit else pure users
  | rounds + 1, uid, seen, users =>
    if users.length < count then do
      let name ← s.userName
      if seen.contains name then usersWith s count rounds uid seen users
      else
        let created ← s.timestamp
        let domain ← s.emailDomain
        usersWith s count rounds (uid + 1) (name :: seen)
          (users ++ [⟨uid + 1, name, name ++ "@" ++ domain, created, created⟩])
    else pure users

def users (s : Supply σ) (count : Nat) : Draw σ (List User) := usersWith s count s.rounds 0 [] []

def later (a b : Timestamp) : Timestamp := if a.isBefore b then b else a

def blog (s : Supply σ) (users : List User) (id : Int) : Draw σ Blog := do
  let author ← s.pick users
  let created := later (← s.timestamp) author.createdAt
  let title ← s.sentence 6
  let content ← s.paragraphs 3
  let days ← s.number 30
  pure ⟨id, Text.trimEnd '.' title, String.intercalate "\n\n" content, author.id, 0, created,
    created.addDays days⟩

def comment (s : Supply σ) (users : List User) (blogs : List Blog) (id : Int) :
    Draw σ Comment := do
  let content ← s.sentence 12
  let author ← s.pick users
  let blog ← s.pick blogs
  let created ← s.timestamp
  pure ⟨id, content, author.id, blog.id, created⟩

def tag (s : Supply σ) (blogs : List Blog) (id : Int) : Draw σ Tag := do
  let name ← s.pick tagNames
  let blog ← s.pick blogs
  let created ← s.timestamp
  pure ⟨id, name, blog.id, created⟩

def pairBefore (p q : Int × Int) : Bool := p.1 < q.1 || (p.1 == q.1 && p.2 < q.2)

def insertPair (p : Int × Int) : List (Int × Int) → List (Int × Int)
  | [] => [p]
  | q :: rest =>
    if p = q then q :: rest
    else if pairBefore p q then p :: q :: rest
    else q :: insertPair p rest

/-- Pairs of users and blogs are added until there are enough or the rounds are used up. -/
def pairsWith (s : Supply σ) (users : List User) (blogs : List Blog) (count : Nat) :
    Nat → List (Int × Int) → Draw σ (List (Int × Int))
  | 0, pairs => if pairs.length < count then throw .drawLimit else pure pairs
  | rounds + 1, pairs =>
    if pairs.length < count then do
      let user ← s.pick users
      let blog ← s.pick blogs
      pairsWith s users blogs count rounds (insertPair (user.id, blog.id) pairs)
    else pure pairs

/-- One more like for the blog with the id, the last one if there are several. -/
def bump (id : Int) : List Blog → Option (List Blog)
  | [] => none
  | b :: rest =>
    match bump id rest with
    | some rest => some (b :: rest)
    | none =>
      if b.id = id then some ({ b with likeCount := b.likeCount + 1 } :: rest) else none

/-- A like for each pair, which is counted with its blog before it is made. -/
def likesOf (s : Supply σ) (id : Int) (blogs : List Blog) :
    List (Int × Int) → Draw σ (List Like × List Blog)
  | [] => pure ([], blogs)
  | (user, blog) :: rest =>
    match bump blog blogs with
    | none => throw (.missingKey (.int blog))
    | some blogs => do
      let created ← s.timestamp
      let done ← likesOf s (id + 1) blogs rest
      pure (⟨id, user, blog, created⟩ :: done.1, done.2)

/-- So many likes, no two of one user for one blog, and the blogs with their likes counted. -/
def likes (s : Supply σ) (users : List User) (blogs : List Blog) (count : Nat) :
    Draw σ (List Like × List Blog) := do
  let pairs ← pairsWith s users blogs count s.rounds []
  likesOf s 1 blogs pairs

def conversation (s : Supply σ) (id : Int) : Draw σ Conversation := do
  let isGroup ← s.threeInTen
  let title ← if isGroup then some <$> s.catchPhrase else pure none
  let created ← s.timestamp
  pure ⟨id, title, isGroup, some created⟩

def message (s : Supply σ) (users : List User) (conversations : List Conversation) (id : Int) :
    Draw σ Message := do
  let content ← s.sentence 10
  let sender ← s.pick users
  let conversation ← s.pick conversations
  let created ← s.timestamp
  pure ⟨id, content, sender.id, conversation.id, created⟩

def generate (s : Supply σ) (sizes : Sizes) : Draw σ Store := do
  let users ← users s sizes.users
  let blogs ← numbered (blog s users) sizes.blogs
  let comments ← numbered (comment s users blogs) sizes.comments
  let tags ← numbered (tag s blogs) sizes.tags
  let liked ← likes s users blogs sizes.likes
  let conversations ← numbered (conversation s) sizes.conversations
  let messages ← numbered (message s users conversations) sizes.messages
  pure ⟨users, liked.2, comments, tags, liked.1, conversations, messages⟩

end QueryGate.Seed
