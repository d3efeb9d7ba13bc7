import QueryGate.Proofs.Pipeline
import QueryGate.Proofs.Question.Leftmost
import QueryGate.Proofs.Question.Phrase
import QueryGate.Proofs.Store.Equality

/-!
# Posts by an author

A question for the posts by an author is answered, without a model, with the newest posts of the
authors who have just that name. The name passes the phrase, the document of the spec, the
validator, the compiler and the join unchanged. Main statement: `AuthorPhrase.runQuery_posts`.
-/

set_option autoImplicit false

namespace QueryGate

namespace Text

theorem trimBy_eq_self {p : Char → Bool} {cs : List Char} (hhead : ∀ c ∈ cs.head?, ¬p c)
    (hlast : ∀ c ∈ cs.getLast?, ¬p c) : trimBy p cs = cs := by
  have hfront : cs.dropWhile p = cs := by
    cases cs with
    | nil => rfl
    | cons c rest => exact List.dropWhile_cons_of_neg (hhead c rfl)
  have hback : cs.reverse.dropWhile p = cs.reverse := by
    cases hcs : cs.reverse with
    | nil => rfl
    | cons c rest =>
      refine List.dropWhile_cons_of_neg (hlast c ?_)
      rw [← List.head?_reverse, hcs]
      rfl
  rw [trimBy, hfront, hback, List.reverse_reverse]

end Text

theorem Keywords.table_of_post {q : List Char} (hq : "post".toList.isPrefixOf q) :
    table Whitelist.standard q = .ok (.text "Blog") := by
  have hfront : Text.OccursAt "post".toList q 0 :=
    Text.occursAt_zero.mpr (List.isPrefixOf_iff_prefix.mp hq)
  have hmention : Mentions Whitelist.standard q ⟨"Blog", 0⟩ :=
    ⟨by cbv, _, List.mem_cons_self, "post", by decide, hfront⟩
  obtain ⟨first, hfirst, hle⟩ := exists_firstMention hmention
  have htable := (mentions_of_firstMention hfirst).table_eq hmention (Nat.le_zero.mp hle)
  rw [table, hfirst]
  exact congrArg (fun name => Except.ok (Value.text name)) htable

namespace AuthorPhrase

open Phrase

variable (p : AuthorPhrase)

def question : String := "posts " ++ String.ofList p.chars

theorem toList_question : p.question.toList = "posts ".toList ++ p.chars := by
  rw [question, String.toList_append]
  exact congrArg _ String.toList_ofList

theorem exists_chars_cons : ∃ c rest, p.chars = c :: rest := by
  obtain ⟨word, hmem, hword⟩ := p.spells_introducer
  obtain ⟨c, rest, h⟩ := exists_cons_of_spells (distinct_introducers.isWord word hmem) hword
  exact ⟨c, _, by rw [chars, h, List.cons_append]⟩

theorem author?_question : author? p.question.toList = some p.name.toList := by
  have hfirst : author? ("posts ".toList ++ p.chars) = searchFrom authorHere? false p.chars := rfl
  obtain ⟨c, rest, hchars⟩ := p.exists_chars_cons
  rw [toList_question, hfirst, hchars, searchFrom, ← hchars]
  simp only [Bool.false_eq_true, if_false, p.authorHere?_chars]

theorem trimBy_question : Text.trimBy Text.isBlank p.question.toList = p.question.toList := by
  rw [toList_question]
  refine Text.trimBy_eq_self ?_ (p.not_isBlank_last _)
  rintro c ⟨⟩
  decide

theorem isPrefixOf_folded : "post".toList.isPrefixOf (Keywords.folded p.question) := by
  have hlower : (Text.lower p.question).toList =
      [] ++ 'p' :: (['o', 's'] ++ 't' ::
        Text.lowerAfter ['t', 's', 'o', 'p'] ('s' :: ' ' :: p.chars)) := by
    rw [Text.lower, toList_question]
    exact String.toList_ofList
  rw [Keywords.folded, hlower, Text.trimBy_append (by decide) (by decide)]
  rfl

def filter : Filter := ⟨"user.username", .equals, .text p.name⟩

theorem kept_filter : Keywords.Kept Whitelist.standard (.text "Blog") p.filter :=
  ⟨by cbv, rfl, _, rfl⟩

theorem spec_question : Keywords.spec Whitelist.standard p.question =
    .ok (Keywords.written "Blog" [p.filter] (Keywords.limit? (Keywords.folded p.question))) := by
  have hentry : Keywords.filters Whitelist.standard (.text "Blog") p.question.toList =
      [p.filter.toObject] := by
    have hfilterable : Keywords.filterable Whitelist.standard (.text "Blog") "user.username" :=
      p.kept_filter.resolves
    rw [Keywords.filters, author?_question]
    simp only [if_pos hfilterable]
    rw [Keywords.entry, String.ofList_toList]
    rfl
  refine Attempt.bind_eq_ok.mpr ⟨_, Keywords.table_of_post p.isPrefixOf_folded, ?_⟩
  rw [trimBy_question, hentry, Keywords.folded]
  cases Keywords.limit? (Text.trimBy Text.isBlank (Text.lower p.question).toList) <;> rfl

def spec : Spec :=
  ⟨"Blog", ["id", "title", "createdAt"], [p.filter],
    Whitelist.standard.sanitizeLimit
      ((Keywords.limit? (Keywords.folded p.question)).elim .null fun n => .int n)⟩

theorem exists_rawSpec (s : Settings) (network : Network) :
    ∃ raw, Question.rawSpec s Whitelist.standard network (some Provider.mock.name) p.question =
      .ok raw ∧ Whitelist.standard.validate raw = .ok p.spec := by
  have hkept : ∀ f ∈ [p.filter], Keywords.Kept Whitelist.standard (.text "Blog") f :=
    List.forall_mem_singleton.mpr p.kept_filter
  refine ⟨_, Question.rawSpec_eq_written p.spec_question (Keywords.plain_written hkept _ 997) s
    network, ?_⟩
  have hfields : Whitelist.standard.allowedAmong "Blog" Whitelist.standard.defaultFields =
      ["id", "title", "createdAt"] := by cbv
  rw [Question.validate_written Whitelist.textual_standard (by simp [Whitelist.tableNames,
    Whitelist.standard, Whitelist.simpleTable]) hkept, hfields, if_neg (List.cons_ne_nil _ _)]
  rfl

end AuthorPhrase

namespace Store

def isBy (s : Store) (name : String) (b : Blog) : Bool :=
  (s.author? b).any fun u => u.username == name

def ShowsBy (s : Store) (name : String) (b : Blog) (row : Value) : Prop :=
  ∃ u, s.author? b = some u ∧ u.username = name ∧
    row = .object [("id", .int b.id), ("title", .text b.title),
      ("createdAt", .text b.createdAt.isoText),
      ("user", .object [("id", .int u.id), ("username", .text name)])]

end Store

/-- The answer holds the newest blogs whose author has the name, as many as its limit allows and
each with its author, and it was asked for by the name alone. -/
structure Answer.HoldsPostsBy (a : Answer) (store : Store) (name : String) : Prop where
  filters : a.spec.filters = [⟨"user.username", .equals, .text name⟩]
  limit_pos : 0 < a.spec.limit
  rows : ∃ chosen, Newest store.blogs (store.isBy name) a.spec.limit.toNat chosen ∧
    List.Forall₂ (store.ShowsBy name) chosen a.rows

namespace AuthorPhrase

variable (p : AuthorPhrase) {store : Store}

theorem ofSpec_spec : Query.ofSpec Whitelist.standard p.spec =
    ⟨"Blog", ⟨[], [("user", [("username", [⟨"equals", .text p.name⟩])])]⟩,
      ["id", "title", "createdAt"], p.spec.limit, [("user", [.text "id", .text "username"])]⟩ := by
  have hpredicate : Predicate.ofFilters p.spec.filters =
      ⟨[], [("user", [("username", [⟨"equals", .text p.name⟩])])]⟩ := by
    show Predicate.ofFilters [p.filter] = _
    rw [filter]
    -- evaluation stops at the name, which must be a variable of its own
    generalize p.name = name
    cbv
  have hidentifying : Query.identifying (some Whitelist.blogTable) "user" =
      [.text "id", .text "username"] := by cbv
  have htable : Whitelist.standard.table? (.text p.spec.table) = some Whitelist.blogTable :=
    Whitelist.table?_blog
  rw [Query.ofSpec, hpredicate, htable]
  simp only [Assoc.keys, List.map_cons, List.map_nil, hidentifying]
  rfl

theorem admits_spec (b : Blog) :
    (Query.ofSpec Whitelist.standard p.spec).admits store b = store.isBy p.name b := by
  have hhold : ∀ u : User, Conditions.hold [("username", [⟨"equals", .text p.name⟩])] u.cell? =
      (u.username == p.name) := by
    intro u
    rw [← Condition.holds_equals_text]
    exact Bool.and_true _
  rw [ofSpec_spec, Query.admits, Store.isBy]
  cases store.author? b with
  | none => rfl
  | some u => exact hhold u

theorem showsBy_describe {b : Blog} (hb : store.isBy p.name b) :
    store.ShowsBy p.name b ((Query.ofSpec Whitelist.standard p.spec).describe store b) := by
  obtain ⟨u, hu, hname⟩ := (Option.any_eq_true _ _).mp hb
  rw [beq_iff_eq] at hname
  refine ⟨u, hu, hname, ?_⟩
  rw [ofSpec_spec, Query.describe, hu, ← hname]
  rfl

theorem isStorable_filter : p.filter.isStorable := by
  rw [filter]
  generalize p.name = name
  cbv

/-- Without a model, the question for the posts by an author is answered with the newest blogs whose
author has the name. -/
theorem runQuery_posts (hstore : store.Sound) (s : Settings) (network : Network) :
    ∃ a, runQuery s Whitelist.standard store network (some Provider.mock.name) p.question = .ok a ∧
      a.HoldsPostsBy store p.name := by
  obtain ⟨raw, hraw, hvalid⟩ := p.exists_rawSpec s network
  have hs := Whitelist.validate_eq_ok.mp hvalid
  obtain ⟨chosen, hchosen, hrows⟩ :
      ∃ chosen, Newest store.blogs ((Query.ofSpec Whitelist.standard p.spec).admits store)
          p.spec.limit.toNat chosen ∧
        (Query.ofSpec Whitelist.standard p.spec).rows store s.statementTimeout
            (some p.spec.table) =
          .ok (chosen.map ((Query.ofSpec Whitelist.standard p.spec).describe store)) :=
    Query.exists_newest_of_isStorable hs rfl hstore (List.forall_mem_singleton.mpr
      p.isStorable_filter)
  rw [funext p.admits_spec] at hchosen
  have hlimit : Whitelist.standard.Permits p.spec.limit := by
    rw [hs.limit]
    exact (Whitelist.bounded_of_ofDocument
      Whitelist.ofDocument_standardDocument).permits_sanitizeLimit _
  refine ⟨⟨p.spec, chosen.map ((Query.ofSpec Whitelist.standard p.spec).describe store)⟩, ?_, rfl,
    hlimit.1, chosen, hchosen, ?_⟩
  · refine Attempt.bind_eq_ok.mpr ⟨raw, hraw, ?_⟩
    refine Attempt.bind_eq_ok.mpr ⟨p.spec, hvalid, ?_⟩
    exact Attempt.bind_eq_ok.mpr ⟨_, hrows, rfl⟩
  · rw [List.forall₂_map_right_iff, List.forall₂_same]
    intro b hb
    exact p.showsBy_describe (hchosen.mem b hb).2

def knotty : AuthorPhrase where
  introducer := "bY"
  article := some "The"
  role := "WRITER"
  opening := some '\''
  name := "ada \"the 3\" by user x"
  closing := none
  stop := some '?'
  spells_introducer := ⟨"by", by decide, by unfold Text.Spells; decide⟩
  spells_article := by
    rintro text ⟨⟩
    unfold Text.Spells
    decide
  spells_role := ⟨"writer", by decide, by unfold Text.Spells; decide⟩
  isQuote_opening := by
    rintro c ⟨⟩
    decide
  isName := by
    refine ⟨by decide, by decide, ?_, ?_⟩
    · rintro c ⟨⟩
      decide
    · rintro c ⟨⟩
      rw [Phrase.Trails]
      decide
  isQuote_closing := nofun
  isStop_stop := by
    rintro c ⟨⟩
    decide

theorem runQuery_posts_knotty : Query.smallStore.Sound ∧
    ∃ a, runQuery {} Whitelist.standard Query.smallStore Http.unreachable
        (some Provider.mock.name) "posts bY The WRITER 'ada \"the 3\" by user x?" = .ok a ∧
      a.HoldsPostsBy Query.smallStore "ada \"the 3\" by user x" :=
  ⟨Query.sound_smallStore, knotty.runQuery_posts Query.sound_smallStore {} Http.unreachable⟩

end AuthorPhrase

end QueryGate
