import Mathlib.Data.List.Nodup
import QueryGate.Proofs.Seed.Draw

/-!
# The integrity of generated rows

Whatever is drawn, the rows that are generated fit together: ids count from one, names and
addresses differ, every reference names a row, no blog is older than its author or younger than its
own update, and likes are counted where they belong. Each loop keeps an invariant that holds of the
empty list. Main statement: `integral_generate`.
-/

set_option autoImplicit false

namespace QueryGate

namespace Day

def AtMost (a b : Day) : Prop :=
  a.year < b.year ∨
    a.year = b.year ∧ (a.month < b.month ∨ a.month = b.month ∧ a.day ≤ b.day)

theorem AtMost.trans {a b c : Day} (hab : a.AtMost b) (hbc : b.AtMost c) : a.AtMost c := by
  unfold AtMost at *
  omega

theorem atMost_next (d : Day) : d.AtMost d.next := by
  unfold next AtMost
  split
  · simp
  · split <;> simp

theorem atMost_addDays (d : Day) (n : Nat) : d.AtMost (d.addDays n) := by
  induction n with
  | zero => simp [addDays, AtMost]
  | succ n ih => exact ih.trans (atMost_next _)

end Day

namespace Timestamp

theorem not_isBefore_self (t : Timestamp) : ¬t.isBefore t := by
  rw [isBefore, decide_eq_true_eq]
  exact List.lt_irrefl _

theorem not_isBefore_addDays (t : Timestamp) (n : Nat) : ¬(t.addDays n).isBefore t := by
  have hday := t.date.atMost_addDays n
  unfold Day.AtMost at hday
  simp only [isBefore, fields, addDays, decide_eq_true_eq, List.cons_lt_cons_iff, List.not_lt_nil,
    Nat.lt_irrefl, and_false, or_false]
  omega

end Timestamp

theorem Text.afterLast_append {separator : Char} (before : List Char) {after : List Char}
    (h : separator ∉ after) : afterLast separator (before ++ separator :: after) = after := by
  have hkept : ∀ c ∈ after.reverse, decide (c ≠ separator) = true := by
    intro c hc
    exact decide_eq_true (ne_of_mem_of_not_mem (List.mem_reverse.mp hc) h)
  rw [afterLast, List.reverse_append, List.reverse_cons, List.append_assoc,
    List.takeWhile_append_of_pos hkept, List.singleton_append, List.takeWhile_cons_of_neg (by simp),
    List.append_nil, List.reverse_reverse]

namespace Seed

open Draw

variable {σ : Type} {s : Supply σ}

theorem idsTo_succ (n : Nat) : idsTo (n + 1) = idsTo n ++ [(n : Int) + 1] := by
  rw [idsTo, List.range'_1_concat, List.map_append, Nat.add_comm 1 n]
  rfl

theorem nodup_idsTo (n : Nat) : (idsTo n).Nodup :=
  List.Nodup.map (fun _ _ => Int.ofNat.inj) List.nodup_range'

def Addressed (u : User) : Prop :=
  ∃ domain, '@' ∉ domain.toList ∧ u.email = u.username ++ "@" ++ domain

/-- Users with consecutive ids, different names, and addresses from their names. -/
structure Registered (users : List User) : Prop where
  ids : users.map (·.id) = idsTo users.length
  names : (users.map (·.username)).Nodup
  addressed : ∀ u ∈ users, Addressed u

namespace Registered

theorem nil : Registered [] := ⟨rfl, List.nodup_nil, nofun⟩

theorem append {users : List User} (h : Registered users) {u : User}
    (hid : u.id = users.length + 1) (hname : u.username ∉ users.map (·.username))
    (hu : Addressed u) : Registered (users ++ [u]) where
  ids := by
    rw [List.map_append, h.ids, List.length_append, List.length_singleton, idsTo_succ,
      List.map_singleton, hid]
  names := by
    rw [List.map_append, List.map_singleton]
    exact List.nodup_append_comm.mp (List.nodup_cons.mpr ⟨hname, h.names⟩)
  addressed := List.forall_mem_append.mpr ⟨h.addressed, List.forall_mem_singleton.mpr hu⟩

/-- The part of an address before its last `@` is the name, so different names have different
addresses. -/
theorem nodup_emails {users : List User} (h : Registered users) :
    (users.map (·.email)).Nodup := by
  refine List.pairwise_map.mpr ?_
  refine (List.pairwise_map.mp h.names).imp_of_mem ?_
  intro u v hu hv hne heq
  obtain ⟨domain, hdomain, hemail⟩ := h.addressed u hu
  obtain ⟨domain', hdomain', hemail'⟩ := h.addressed v hv
  have hchars : u.username.toList ++ '@' :: domain.toList =
      v.username.toList ++ '@' :: domain'.toList := by
    have hsame := congrArg String.toList (hemail.symm.trans (heq.trans hemail'))
    simpa [String.toList_append] using hsame
  have hafter := congrArg (Text.afterLast '@') hchars
  rw [Text.afterLast_append _ hdomain, Text.afterLast_append _ hdomain'] at hafter
  rw [hafter] at hchars
  exact hne (String.toList_inj.mp (List.append_cancel_right hchars))

end Registered

/-- The id given last and the names seen are those of the users so far. -/
structure Tracks (uid : Int) (seen : List String) (users : List User) : Prop where
  uid : uid = users.length
  seen : ∀ name, name ∈ seen ↔ name ∈ users.map (·.username)

theorem Tracks.append {uid : Int} {seen : List String} {users : List User}
    (h : Tracks uid seen users) (u : User) :
    Tracks (uid + 1) (u.username :: seen) (users ++ [u]) where
  uid := by
    rw [h.uid, List.length_append, List.length_singleton]
    rfl
  seen := by
    intro name
    rw [List.mem_cons, h.seen, List.map_append, List.mem_append, List.map_singleton,
      List.mem_singleton, or_comm]

theorem ensures_usersWith (hs : s.Fair) {count rounds : Nat} {uid : Int} {seen : List String}
    {users : List User} (h : Registered users) (htracks : Tracks uid seen users)
    (hlength : users.length ≤ count) :
    Ensures (usersWith s count rounds uid seen users) fun users =>
      Registered users ∧ users.length = count := by
  induction rounds generalizing uid seen users with
  | zero =>
    rw [usersWith]
    split
    · exact ensures_drawLimit
    · exact ensures_pure ⟨h, by omega⟩
  | succ rounds ih =>
    rw [usersWith]
    split
    · refine hs.userName.bind fun name => ?_
      split
      · exact ih h htracks hlength
      · rename_i hnew
        refine hs.succeeds_timestamp.bind fun created => ?_
        refine hs.emailDomain.bind fun domain hdomain => ?_
        have hnext := htracks.append ⟨uid + 1, name, name ++ "@" ++ domain, created, created⟩
        refine ih (h.append ?_ ?_ ⟨domain, hdomain, rfl⟩) hnext ?_
        · rw [htracks.uid]
        · rwa [List.contains_iff_mem, htracks.seen] at hnew
        · rw [List.length_append, List.length_singleton]
          omega
    · exact ensures_pure ⟨h, by omega⟩

theorem ensures_users (hs : s.Fair) (count : Nat) :
    Ensures (users s count) fun users => Registered users ∧ users.length = count :=
  ensures_usersWith hs .nil ⟨rfl, fun _ => Iff.rfl⟩ (Nat.zero_le _)

theorem not_isBefore_later (a b : Timestamp) : ¬(later a b).isBefore b := by
  unfold later
  split
  · exact b.not_isBefore_self
  · assumption

/-- A blog of one of the users, no older than the user and no younger than its own update. -/
structure Authored (users : List User) (b : Blog) : Prop where
  author : ∃ u ∈ users, b.userId = u.id ∧ ¬b.createdAt.isBefore u.createdAt
  updated : ¬b.updatedAt.isBefore b.createdAt

namespace Authored

variable {users : List User} {b : Blog} (h : Authored users b)
include h

theorem refers : b.userId ∈ users.map (·.id) := by
  obtain ⟨u, hu, hid, -⟩ := h.author
  exact hid ▸ List.mem_map_of_mem hu

theorem not_isBefore (husers : Registered users) {u : User} (hu : u ∈ users)
    (hid : u.id = b.userId) : ¬b.createdAt.isBefore u.createdAt := by
  obtain ⟨author, hauthor, hauthorId, hcreated⟩ := h.author
  have hnodup : (users.map (·.id)).Nodup := husers.ids ▸ nodup_idsTo _
  rwa [List.inj_on_of_nodup_map hnodup hu hauthor (hid.trans hauthorId)]

end Authored

theorem ensures_blog (hs : s.Fair) {users : List User} (hne : users ≠ []) (id : Int) :
    Ensures (blog s users id) fun b => b.id = id ∧ Authored users b ∧ b.likeCount = 0 :=
  (hs.ensures_pick hne).bind fun author hauthor => hs.succeeds_timestamp.bind fun _ =>
    (hs.sentence 6).bind fun _ => (hs.succeeds_paragraphs 3).bind fun _ =>
      (hs.number 30).bind fun _ _ => ensures_pure
        ⟨rfl, ⟨⟨author, hauthor, rfl, not_isBefore_later _ _⟩,
          Timestamp.not_isBefore_addDays _ _⟩, rfl⟩

/-- Pairs in order, so that none is there twice, of which each has a property. -/
structure Ordered (P : Int × Int → Prop) (pairs : List (Int × Int)) : Prop where
  pairwise : pairs.Pairwise fun p q => pairBefore p q
  all : ∀ p ∈ pairs, P p

theorem pairBefore_iff {p q : Int × Int} :
    pairBefore p q ↔ p.1 < q.1 ∨ p.1 = q.1 ∧ p.2 < q.2 := by
  simp [pairBefore]

theorem pairBefore_trans {p q r : Int × Int} (hpq : pairBefore p q) (hqr : pairBefore q r) :
    pairBefore p r := by
  rw [pairBefore_iff] at *
  omega

theorem pairBefore_of_not {p q : Int × Int} (hne : p ≠ q) (h : ¬pairBefore p q) :
    pairBefore q p := by
  obtain ⟨a, b⟩ := p
  obtain ⟨c, d⟩ := q
  rw [pairBefore_iff] at *
  rw [ne_eq, Prod.mk.injEq] at hne
  omega

theorem mem_of_mem_insertPair {p q : Int × Int} {pairs : List (Int × Int)}
    (h : q ∈ insertPair p pairs) : q = p ∨ q ∈ pairs := by
  induction pairs with
  | nil => exact .inl (List.mem_singleton.mp h)
  | cons r rest ih =>
    unfold insertPair at h
    split at h
    · exact .inr h
    · split at h
      · exact List.mem_cons.mp h
      · rcases List.mem_cons.mp h with rfl | h
        · exact .inr List.mem_cons_self
        · exact (ih h).imp id (List.mem_cons_of_mem _)

theorem length_insertPair_le (p : Int × Int) (pairs : List (Int × Int)) :
    (insertPair p pairs).length ≤ pairs.length + 1 := by
  induction pairs with
  | nil => exact Nat.le_refl _
  | cons r rest ih =>
    unfold insertPair
    split
    · exact Nat.le_succ _
    · split
      · exact Nat.le_refl _
      · exact Nat.succ_le_succ ih

namespace Ordered

variable {P : Int × Int → Prop} {pairs : List (Int × Int)}

theorem nodup (h : Ordered P pairs) : pairs.Nodup := by
  refine h.pairwise.imp ?_
  rintro p _ hbefore rfl
  rw [pairBefore_iff] at hbefore
  omega

theorem insertPair (h : Ordered P pairs) {p : Int × Int} (hp : P p) :
    Ordered P (Seed.insertPair p pairs) where
  pairwise := by
    obtain ⟨hpairs, -⟩ := h
    induction pairs with
    | nil => exact List.pairwise_singleton _ _
    | cons q rest ih =>
      obtain ⟨hq, hrest⟩ := List.pairwise_cons.mp hpairs
      unfold Seed.insertPair
      split
      · exact hpairs
      · rename_i hne
        split
        · rename_i hbefore
          refine List.pairwise_cons.mpr ⟨List.forall_mem_cons.mpr ⟨hbefore, ?_⟩, hpairs⟩
          exact fun r hr => pairBefore_trans hbefore (hq r hr)
        · rename_i hnot
          refine List.pairwise_cons.mpr ⟨?_, ih hrest⟩
          intro r hr
          rcases mem_of_mem_insertPair hr with rfl | hr
          · exact pairBefore_of_not hne hnot
          · exact hq r hr
  all := by
    intro q hq
    rcases mem_of_mem_insertPair hq with rfl | hq
    · exact hp
    · exact h.all q hq

end Ordered

def Refers (users : List User) (blogs : List Blog) (p : Int × Int) : Prop :=
  p.1 ∈ users.map (·.id) ∧ p.2 ∈ blogs.map (·.id)

section Likes

variable {users : List User} {blogs : List Blog} {count : Nat}

theorem ensures_pairsWith (hs : s.Fair) (husers : 0 < count → users ≠ [])
    (hblogs : 0 < count → blogs ≠ []) {rounds : Nat} {pairs : List (Int × Int)}
    (h : Ordered (Refers users blogs) pairs) (hlength : pairs.length ≤ count) :
    Ensures (pairsWith s users blogs count rounds pairs) fun pairs =>
      Ordered (Refers users blogs) pairs ∧ pairs.length = count := by
  induction rounds generalizing pairs with
  | zero =>
    rw [pairsWith]
    split
    · exact ensures_drawLimit
    · exact ensures_pure ⟨h, by omega⟩
  | succ rounds ih =>
    rw [pairsWith]
    split
    · rename_i hmore
      have hpos : 0 < count := by omega
      refine (hs.ensures_pick (husers hpos)).bind fun user huser => ?_
      refine (hs.ensures_pick (hblogs hpos)).bind fun blog hblog => ?_
      refine ih (h.insertPair ⟨List.mem_map_of_mem huser, List.mem_map_of_mem hblog⟩) ?_
      have := length_insertPair_le (user.id, blog.id) pairs
      omega
    · exact ensures_pure ⟨h, by omega⟩

/-- The blogs as they were, but for the likes that were counted: one for each pair that names the
blog. -/
def tally (pairs : List (Int × Int)) (blogs : List Blog) : List Blog :=
  blogs.map fun b => { b with likeCount := b.likeCount + pairs.countP (·.2 == b.id) }

theorem map_id_tally (pairs : List (Int × Int)) (blogs : List Blog) :
    (tally pairs blogs).map (·.id) = blogs.map (·.id) := by
  rw [tally, List.map_map]
  rfl

theorem bump_eq_none {id : Int} {blogs : List Blog} (h : id ∉ blogs.map (·.id)) :
    bump id blogs = none := by
  induction blogs with
  | nil => rfl
  | cons b rest ih =>
    rw [List.map_cons, List.mem_cons, not_or] at h
    rw [bump, ih h.2]
    exact if_neg (Ne.symm h.1)

theorem bump_tally {blogs : List Blog} (hnodup : (blogs.map (·.id)).Nodup)
    (pairs : List (Int × Int)) {p : Int × Int} (hp : p.2 ∈ blogs.map (·.id)) :
    bump p.2 (tally pairs blogs) = some (tally (pairs ++ [p]) blogs) := by
  have hcount : ∀ b : Blog, (pairs ++ [p]).countP (·.2 == b.id) =
      pairs.countP (·.2 == b.id) + if p.2 = b.id then 1 else 0 := by
    intro b
    rw [List.countP_append, List.countP_singleton]
    simp
  induction blogs with
  | nil => nomatch hp
  | cons b rest ih =>
    obtain ⟨hb, hrest⟩ := List.nodup_cons.mp hnodup
    rw [tally, tally, List.map_cons, List.map_cons, bump, ← tally, ← tally, hcount]
    rcases List.mem_cons.mp hp with hhead | htail
    · -- The head is counted only when no later blog has the id.
      have hnot : p.2 ∉ (tally pairs rest).map (·.id) := by
        rwa [map_id_tally, hhead]
      have hsame : tally (pairs ++ [p]) rest = tally pairs rest := by
        refine List.map_congr_left fun b' hb' => ?_
        have hother : p.2 ≠ b'.id := by
          rintro hid
          exact hb (hhead ▸ hid ▸ List.mem_map_of_mem hb')
        rw [hcount, if_neg hother, Nat.add_zero]
      rw [bump_eq_none hnot, if_pos hhead.symm, if_pos hhead, hsame, Int.natCast_add,
        ← Int.add_assoc]
      rfl
    · have hother : p.2 ≠ b.id := by
        intro hid
        rw [hid] at htail
        exact hb htail
      rw [ih hrest htail, if_neg hother, Nat.add_zero]

/-- A like is made for each pair, in order, and counted with its blog. The invariant of the loop is
that the blogs stand as `tally` has them for the pairs gone through. -/
theorem ensures_likesOf (hs : s.Fair) (hnodup : (blogs.map (·.id)).Nodup) (start : Nat)
    (before : List (Int × Int)) {pairs : List (Int × Int)}
    (hpairs : ∀ p ∈ pairs, p.2 ∈ blogs.map (·.id)) :
    Ensures (likesOf s start (tally before blogs) pairs) fun done =>
      done.1.map (·.id) = (List.range' start pairs.length).map Nat.cast ∧
        done.1.map (fun l => (l.userId, l.blogId)) = pairs ∧
          done.2 = tally (before ++ pairs) blogs := by
  induction pairs generalizing start before with
  | nil =>
    rw [List.append_nil]
    exact ensures_pure ⟨rfl, rfl, rfl⟩
  | cons p rest ih =>
    obtain ⟨hp, hrest⟩ := List.forall_mem_cons.mp hpairs
    rw [likesOf, bump_tally hnodup before hp]
    refine hs.succeeds_timestamp.bind fun created => ?_
    have hnext := ih (start + 1) (before ++ [p]) hrest
    rw [Int.natCast_succ, List.append_assoc] at hnext
    refine hnext.bind fun done hdone => ensures_pure ⟨?_, ?_, hdone.2.2⟩
    · rw [List.map_cons, hdone.1, List.length_cons, List.range'_succ, List.map_cons]
    · rw [List.map_cons, hdone.2.1]

theorem tally_nil (blogs : List Blog) : tally [] blogs = blogs := by
  simp [tally]

theorem ensures_likes (hs : s.Fair) (hnodup : (blogs.map (·.id)).Nodup)
    (husers : 0 < count → users ≠ []) (hblogs : 0 < count → blogs ≠ []) :
    Ensures (likes s users blogs count) fun done =>
      done.1.map (·.id) = idsTo count ∧
        Ordered (Refers users blogs) (done.1.map fun l => (l.userId, l.blogId)) ∧
          done.2 = tally (done.1.map fun l => (l.userId, l.blogId)) blogs := by
  refine (ensures_pairsWith hs husers hblogs ⟨.nil, nofun⟩ (Nat.zero_le _)).bind ?_
  rintro pairs ⟨hpairs, rfl⟩
  have hlikes := ensures_likesOf hs hnodup 1 [] fun p hp => (hpairs.all p hp).2
  rw [tally_nil, List.nil_append] at hlikes
  refine hlikes.mono ?_
  rintro done ⟨hids, hdone, hcounted⟩
  exact ⟨hids, hdone ▸ hpairs, hdone ▸ hcounted⟩

end Likes

/-- The rows fit together, and there are as many of them as were asked for. -/
structure Integral (sizes : Sizes) (rows : Store) : Prop where
  users : rows.users.map (·.id) = idsTo sizes.users
  blogs : rows.blogs.map (·.id) = idsTo sizes.blogs
  comments : rows.comments.map (·.id) = idsTo sizes.comments
  tags : rows.tags.map (·.id) = idsTo sizes.tags
  likes : rows.likes.map (·.id) = idsTo sizes.likes
  conversations : rows.conversations.map (·.id) = idsTo sizes.conversations
  messages : rows.messages.map (·.id) = idsTo sizes.messages
  usernames : (rows.users.map (·.username)).Nodup
  emails : (rows.users.map (·.email)).Nodup
  blogRefers : ∀ b ∈ rows.blogs, b.userId ∈ rows.users.map (·.id)
  commentRefers : ∀ c ∈ rows.comments,
    c.userId ∈ rows.users.map (·.id) ∧ c.blogId ∈ rows.blogs.map (·.id)
  tagRefers : ∀ t ∈ rows.tags, t.blogId ∈ rows.blogs.map (·.id)
  likeRefers : ∀ l ∈ rows.likes,
    l.userId ∈ rows.users.map (·.id) ∧ l.blogId ∈ rows.blogs.map (·.id)
  messageRefers : ∀ m ∈ rows.messages,
    m.senderId ∈ rows.users.map (·.id) ∧ m.conversationId ∈ rows.conversations.map (·.id)
  createdAt : ∀ b ∈ rows.blogs, ∀ u ∈ rows.users, u.id = b.userId →
    ¬b.createdAt.isBefore u.createdAt
  updatedAt : ∀ b ∈ rows.blogs, ¬b.updatedAt.isBefore b.createdAt
  likePairs : (rows.likes.map fun l => (l.userId, l.blogId)).Nodup
  likeCount : ∀ b ∈ rows.blogs, b.likeCount = rows.likes.countP (·.blogId == b.id)

/-- No row is asked for that would refer to a table without rows. -/
structure Sizes.Fillable (sizes : Sizes) : Prop where
  users : 0 < sizes.blogs ∨ 0 < sizes.comments ∨ 0 < sizes.likes ∨ 0 < sizes.messages →
    0 < sizes.users
  blogs : 0 < sizes.comments ∨ 0 < sizes.tags ∨ 0 < sizes.likes → 0 < sizes.blogs
  conversations : 0 < sizes.messages → 0 < sizes.conversations

example : ({} : Sizes).Fillable := ⟨by decide, by decide, by decide⟩

theorem ne_nil_of_ids {α : Type} {key : α → Int} {rows : List α} {n : Nat}
    (h : rows.map key = idsTo n) (hn : 0 < n) : rows ≠ [] := by
  rintro rfl
  have hlength := congrArg List.length h
  simp [idsTo] at hlength
  omega

theorem ensures_comment (hs : s.Fair) {users : List User} {blogs : List Blog}
    (husers : users ≠ []) (hblogs : blogs ≠ []) (id : Int) :
    Ensures (comment s users blogs id) fun c =>
      c.id = id ∧ c.userId ∈ users.map (·.id) ∧ c.blogId ∈ blogs.map (·.id) :=
  (hs.sentence 12).bind fun _ => (hs.ensures_pick husers).bind fun _ hauthor =>
    (hs.ensures_pick hblogs).bind fun _ hblog => hs.succeeds_timestamp.bind fun _ =>
      ensures_pure ⟨rfl, List.mem_map_of_mem hauthor, List.mem_map_of_mem hblog⟩

theorem ensures_tag (hs : s.Fair) {blogs : List Blog} (hblogs : blogs ≠ []) (id : Int) :
    Ensures (tag s blogs id) fun t => t.id = id ∧ t.blogId ∈ blogs.map (·.id) :=
  (hs.ensures_pick (List.cons_ne_nil _ _)).bind fun _ _ =>
    (hs.ensures_pick hblogs).bind fun _ hblog => hs.succeeds_timestamp.bind fun _ =>
      ensures_pure ⟨rfl, List.mem_map_of_mem hblog⟩

theorem ensures_conversation (hs : s.Fair) (id : Int) :
    Ensures (conversation s id) fun c => c.id = id ∧ True := by
  refine hs.threeInTen.bind fun isGroup => ?_
  have hrest : ∀ title, Ensures (do
      let created ← s.timestamp
      pure (⟨id, title, isGroup, some created⟩ : Conversation)) fun c => c.id = id ∧ True :=
    fun _ => hs.succeeds_timestamp.bind fun _ => ensures_pure ⟨rfl, trivial⟩
  dsimp only
  split
  · have htitle : Succeeds (some <$> s.catchPhrase) :=
      hs.catchPhrase.bind fun _ => ensures_pure trivial
    exact htitle.bind hrest
  · exact Succeeds.bind (ensures_pure trivial) hrest

theorem ensures_message (hs : s.Fair) {users : List User} {conversations : List Conversation}
    (husers : users ≠ []) (hconversations : conversations ≠ []) (id : Int) :
    Ensures (message s users conversations id) fun m =>
      m.id = id ∧ m.senderId ∈ users.map (·.id) ∧
        m.conversationId ∈ conversations.map (·.id) :=
  (hs.sentence 10).bind fun _ => (hs.ensures_pick husers).bind fun _ hsender =>
    (hs.ensures_pick hconversations).bind fun _ hconversation => hs.succeeds_timestamp.bind fun _ =>
      ensures_pure ⟨rfl, List.mem_map_of_mem hsender, List.mem_map_of_mem hconversation⟩

theorem authored_of_mem_tally {users : List User} {likes : List Like} {blogs : List Blog}
    (h : ∀ b ∈ blogs, Authored users b ∧ b.likeCount = 0) {b : Blog}
    (hb : b ∈ tally (likes.map fun l => (l.userId, l.blogId)) blogs) :
    Authored users b ∧ b.likeCount = likes.countP (·.blogId == b.id) := by
  obtain ⟨blog, hblog, rfl⟩ := List.mem_map.mp hb
  obtain ⟨⟨author, updated⟩, hzero⟩ := h blog hblog
  refine ⟨⟨author, updated⟩, ?_⟩
  rw [hzero, Int.zero_add, List.countP_map]
  rfl

theorem ensures_generate (hs : s.Fair) {sizes : Sizes} (hz : sizes.Fillable) :
    Ensures (generate s sizes) (Integral sizes) := by
  -- Tables are drawn from those before them, so their facts are gathered in the order of drawing.
  refine (ensures_users hs sizes.users).bind ?_
  rintro users ⟨husers, hcount⟩
  have huserIds : users.map (·.id) = idsTo sizes.users := hcount ▸ husers.ids
  have hauthors (h : 0 < sizes.users) : users ≠ [] := ne_nil_of_ids huserIds h
  refine (ensures_numbered fun h => ensures_blog hs (hauthors (hz.users (.inl h)))).bind ?_
  rintro blogs ⟨hblogIds, hblogs⟩
  have hposts (h : 0 < sizes.blogs) : blogs ≠ [] := ne_nil_of_ids hblogIds h
  refine (ensures_numbered fun h => ensures_comment hs (hauthors (hz.users (.inr (.inl h))))
    (hposts (hz.blogs (.inl h)))).bind ?_
  rintro comments ⟨hcommentIds, hcomments⟩
  refine (ensures_numbered fun h => ensures_tag hs (hposts (hz.blogs (.inr (.inl h))))).bind ?_
  rintro tags ⟨htagIds, htags⟩
  refine (ensures_likes hs (hblogIds ▸ nodup_idsTo _)
    (fun h => hauthors (hz.users (.inr (.inr (.inl h)))))
    fun h => hposts (hz.blogs (.inr (.inr h)))).bind ?_
  rintro ⟨likes, counted⟩ ⟨hlikeIds, hpairs, hcounted⟩
  dsimp only at hlikeIds hpairs hcounted
  subst hcounted
  refine (ensures_numbered fun _ => ensures_conversation hs).bind ?_
  rintro conversations ⟨hconversationIds, -⟩
  refine (ensures_numbered fun h => ensures_message hs
    (hauthors (hz.users (.inr (.inr (.inr h)))))
    (ne_nil_of_ids hconversationIds (hz.conversations h))).bind ?_
  rintro messages ⟨hmessageIds, hmessages⟩
  have hids := map_id_tally (likes.map fun l => (l.userId, l.blogId)) blogs
  have hcounted : ∀ b ∈ tally (likes.map fun l => (l.userId, l.blogId)) blogs,
      Authored users b ∧ b.likeCount = likes.countP (·.blogId == b.id) :=
    fun _ hb => authored_of_mem_tally hblogs hb
  exact ensures_pure
    { users := huserIds
      blogs := hids.trans hblogIds
      comments := hcommentIds
      tags := htagIds
      likes := hlikeIds
      conversations := hconversationIds
      messages := hmessageIds
      usernames := husers.names
      emails := husers.nodup_emails
      blogRefers := fun b hb => (hcounted b hb).1.refers
      commentRefers := hids.symm ▸ hcomments
      tagRefers := hids.symm ▸ htags
      likeRefers := hids.symm ▸ fun l hl => hpairs.all _ (List.mem_map_of_mem hl)
      messageRefers := hmessages
      createdAt := fun b hb u hu hid => (hcounted b hb).1.not_isBefore husers hu hid
      updatedAt := fun b hb => (hcounted b hb).1.updated
      likePairs := hpairs.nodup
      likeCount := fun b hb => (hcounted b hb).2 }

theorem usersWith_of_le {count : Nat} {users : List User} (h : count ≤ users.length)
    (rounds : Nat) (uid : Int) (seen : List String) :
    usersWith s count rounds uid seen users = pure users := by
  cases rounds <;> exact if_neg (Nat.not_lt.mpr h)

theorem extends_usersWith {count rounds : Nat} (more : Nat) (uid : Int) (seen : List String)
    (users : List User) : Extends (usersWith s count rounds uid seen users)
      (usersWith (s.addRounds more) count (rounds + more) uid seen users) := by
  induction rounds generalizing uid seen users with
  | zero =>
    rcases Nat.lt_or_ge users.length count with hlt | hle
    · rw [usersWith, if_pos hlt]
      exact extends_drawLimit _
    · rw [usersWith_of_le hle, usersWith_of_le hle]
      exact Extends.refl _
  | succ rounds ih =>
    rw [Nat.succ_add, usersWith, usersWith]
    split
    · refine (Extends.refl _).bind fun name => ?_
      split
      · exact ih uid seen users
      · exact (Extends.refl _).bind fun _ => (Extends.refl _).bind fun _ => ih _ _ _
    · exact Extends.refl _

section

variable {users : List User} {blogs : List Blog} {count rounds : Nat}

theorem pairsWith_of_le {pairs : List (Int × Int)} (h : count ≤ pairs.length) :
    pairsWith s users blogs count rounds pairs = pure pairs := by
  cases rounds <;> exact if_neg (Nat.not_lt.mpr h)

theorem extends_pairsWith (more : Nat) (pairs : List (Int × Int)) :
    Extends (pairsWith s users blogs count rounds pairs)
      (pairsWith (s.addRounds more) users blogs count (rounds + more) pairs) := by
  induction rounds generalizing pairs with
  | zero =>
    rcases Nat.lt_or_ge pairs.length count with hlt | hle
    · rw [pairsWith, if_pos hlt]
      exact extends_drawLimit _
    · rw [pairsWith_of_le hle, pairsWith_of_le hle]
      exact Extends.refl _
  | succ rounds ih =>
    rw [Nat.succ_add, pairsWith, pairsWith]
    split
    · exact (Extends.refl _).bind fun _ => (Extends.refl _).bind fun _ => ih _
    · exact Extends.refl _

end

theorem likesOf_addRounds (more : Nat) (start : Int) (blogs : List Blog)
    (pairs : List (Int × Int)) :
    likesOf (s.addRounds more) start blogs pairs = likesOf s start blogs pairs := by
  induction pairs generalizing start blogs with
  | nil => rfl
  | cons p rest ih =>
    rw [likesOf, likesOf]
    cases bump p.2 blogs with
    | none => rfl
    | some counted =>
      dsimp only
      rw [ih]
      rfl

theorem extends_generate (sizes : Sizes) (more : Nat) :
    Extends (generate s sizes) (generate (s.addRounds more) sizes) := by
  have husers : Extends (users s sizes.users) (users (s.addRounds more) sizes.users) :=
    extends_usersWith more 0 [] []
  refine husers.bind fun users => (Extends.refl _).bind fun blogs => ?_
  refine (Extends.refl _).bind fun _ => (Extends.refl _).bind fun _ => ?_
  have hlikes : Extends (likes s users blogs sizes.likes)
      (likes (s.addRounds more) users blogs sizes.likes) :=
    (extends_pairsWith more []).bind fun _ => likesOf_addRounds more 1 _ _ ▸ Extends.refl _
  exact hlikes.bind fun _ => Extends.refl _

/-- On every run on which the draws do not run out, the generated rows fit together; more rounds
for the loops make no difference. -/
theorem integral_generate (hs : s.Fair) {sizes : Sizes} (hz : sizes.Fillable) (state : σ)
    (hfinish : (generate s sizes state).1 ≠ .error .drawLimit) :
    ∃ rows, (generate s sizes state).1 = .ok rows ∧ Integral sizes rows ∧
      ∀ more, generate (s.addRounds more) sizes state = generate s sizes state := by
  obtain ⟨rows, hrows, hintegral⟩ := (ensures_generate hs hz state).resolve_left hfinish
  exact ⟨rows, hrows, hintegral, fun more => extends_generate sizes more state hfinish⟩

def smallSizes : Sizes := ⟨2, 2, 1, 1, 4, 1, 1⟩

theorem integral_generate_small :
    (Supply.congruential 20000 40).Fair ∧ smallSizes.Fillable ∧
      (generate (Supply.congruential 20000 40) smallSizes ⟨7, 0⟩).1 ≠ .error .drawLimit ∧
      ∃ rows, (generate (Supply.congruential 20000 40) smallSizes ⟨7, 0⟩).1 = .ok rows ∧
        Integral smallSizes rows ∧ ∀ more,
          generate ((Supply.congruential 20000 40).addRounds more) smallSizes ⟨7, 0⟩ =
            generate (Supply.congruential 20000 40) smallSizes ⟨7, 0⟩ := by
  have hfinish : (generate (Supply.congruential 20000 40) smallSizes ⟨7, 0⟩).1 ≠
      .error .drawLimit := by
    have hok : (generate (Supply.congruential 20000 40) smallSizes ⟨7, 0⟩).1.toBool := by
      decide +kernel
    intro herror
    rw [herror] at hok
    nomatch hok
  have hfillable : smallSizes.Fillable := ⟨by decide, by decide, by decide⟩
  exact ⟨Congruential.fair _ _, hfillable, hfinish,
    integral_generate (Congruential.fair _ _) hfillable _ hfinish⟩

end Seed

end QueryGate
