import QueryGate.Proofs.Pipeline
import QueryGate.Proofs.Store.Agreement

/-!
# Hidden columns do not show

What a raw spec ends in depends on no column that the whitelist hides: not its rows, not their
order and not its failure. Main statement: `runSpec_eq_of_agreeOn`. Everything up to the selection
is made without the store; the selection reads only what an accepted spec may name.
-/

set_option autoImplicit false

namespace QueryGate

theorem Select.run_congr {s : Select} {a b : Store}
    (h : ∀ bounds, s.handOver s.prepare = .ok bounds →
      (s.chosen bounds a).map s.row = (s.chosen bounds b).map s.row) : s.run a = s.run b := by
  unfold run
  cases hbinds : s.handOver s.prepare with
  | error e => rfl
  | ok bounds =>
    have hrows := h bounds hbinds
    have hempty : (s.chosen bounds a).isEmpty = (s.chosen bounds b).isEmpty := by
      have hlength := congrArg List.length hrows
      rw [List.length_map, List.length_map] at hlength
      rw [Bool.eq_iff_iff, List.isEmpty_iff_length_eq_zero, List.isEmpty_iff_length_eq_zero,
        hlength]
    simp only [Attempt.ok_bind, answer, hempty, hrows]

namespace Query

theorem rows_eq_of_agreeOn {q : Query} {own author : String → Prop} {a b : Store}
    (hcrosses : q.CrossesAuthorOnly) (hcolumns : q.crossesAuthor → q.authorColumns ≠ [])
    (hlimit : 0 ≤ q.limit) (hq : q.ReadsOnly own author) (h : a.AgreeOn own author b)
    (ha : a.Keyed) (hb : b.Keyed) (timeout : Value) (table : Option String) :
    q.rows a timeout table = q.rows b timeout table := by
  by_cases hserved : StoreTable.ofName? (q.servedTable table) = some .blog
  · rw [rows_eq a timeout hserved, rows_eq b timeout hserved]
    cases hs : Select.ofQuery q with
    | error e => rfl
    | ok s =>
      have hasks := (Select.ofQuery_eq_ok hcrosses).mp hs
      have hrun : s.run a = s.run b := by
        refine Select.run_congr ?_
        intro bounds hbinds
        have hbinds := (Select.handOver_eq_ok.mp hbinds).1
        rw [Select.map_row_chosen hasks hbinds ha.users hlimit hcolumns,
          Select.map_row_chosen hasks hbinds hb.users hlimit hcolumns]
        exact describe_newest_eq hq h ha hb _
      exact congrArg (Except.mapError timeoutOr) hrun
  · rw [rows_eq_error a timeout hserved, rows_eq_error b timeout hserved]

end Query

namespace Whitelist

variable {w : Whitelist}

/-- No relation leads from blogs anywhere but to their authors. -/
def RelatesAuthorOnly (w : Whitelist) : Prop :=
  ∀ t, w.table? (.text "Blog") = some t → ∀ p ∈ t.relations,
    p.1 = .text Select.authorRelation ∧ p.2.table = .text "User"

/-- The column of blogs is allowed. -/
def ShowsOwn (w : Whitelist) (name : String) : Prop := .text name ∈ w.allowedFields (.text "Blog")

/-- The column of users is allowed, or tells authors apart in the rows of blogs. -/
def ShowsAuthor (w : Whitelist) (name : String) : Prop :=
  .text name ∈ w.allowedFields (.text "User") ∨
    .text name ∈ Query.identifying (w.table? (.text "Blog")) Select.authorRelation

end Whitelist

namespace Query

variable {w : Whitelist} {s : Spec} {t : Table}

theorem crossesAuthorOnly_of_confined (hw : w.RelatesAuthorOnly) (hblog : s.table = "Blog")
    (hq : (ofSpec w s).Confined w t) : (ofSpec w s).CrossesAuthorOnly := by
  refine crossesAuthorOnly_ofSpec ?_
  intro g hg
  have htable : w.table? (.text "Blog") = some t := hblog ▸ hq.table
  obtain ⟨r, -, hr, -⟩ := hq.relations g hg
  exact Value.text.inj (hw t htable _ (Value.mem_of_get?_text hr)).1

/-- A query compiled from an accepted spec on blogs reads only columns that the whitelist shows. -/
theorem readsOnly_of_confined (hw : w.RelatesAuthorOnly) (hblog : s.table = "Blog")
    (hq : (ofSpec w s).Confined w t) :
    (ofSpec w s).ReadsOnly w.ShowsOwn w.ShowsAuthor := by
  have htable : w.table? (.text "Blog") = some t := hblog ▸ hq.table
  have hfields : w.allowedFields (.text "Blog") = t.fields := by
    rw [Whitelist.allowedFields, htable]
  constructor
  case projection =>
    intro name hname
    rw [Whitelist.ShowsOwn, hfields]
    exact hq.projection name hname
  case fields =>
    intro g hg
    rw [Whitelist.ShowsOwn, hfields]
    exact hq.fields g hg
  case authorConditions =>
    intro g hg
    rw [authorConditions] at hg
    cases hget : Assoc.get? Select.authorRelation (ofSpec w s).predicate.relations with
    | none =>
      rw [hget] at hg
      cases hg
    | some cs =>
      rw [hget] at hg
      -- The relation of the whitelist that has this name leads to the table of the users.
      obtain ⟨r, target, hr, htarget, hallowed⟩ := hq.relations _ (Assoc.mem_of_get? hget)
      rw [(hw t htable _ (Value.mem_of_get?_text hr)).2] at htarget
      left
      rw [Whitelist.allowedFields, htarget]
      exact hallowed g hg
  case authorColumns =>
    intro name hname
    have hcrosses : (ofSpec w s).crossesAuthor := by
      by_contra hnot
      rw [Query.authorColumns, if_neg hnot] at hname
      cases hname
    rw [authorColumns_ofSpec hcrosses, hblog] at hname
    exact .inr hname

end Query

/-- Of two stores that differ in hidden columns only, every raw spec gives the same answer, or the
same failure. -/
theorem runSpec_eq_of_agreeOn {doc : Value} {w : Whitelist} (hw : Whitelist.ofDocument doc = .ok w)
    (hrelations : w.RelatesAuthorOnly) {a b : Store}
    (ha : a.Keyed) (hb : b.Keyed) (hagree : a.AgreeOn w.ShowsOwn w.ShowsAuthor b)
    (timeout raw : Value) :
    runSpec w a timeout raw = runSpec w b timeout raw := by
  rw [runSpec_eq, runSpec_eq]
  cases hs : w.validate raw with
  | error e => rfl
  | ok s =>
    obtain ⟨t, hconfined⟩ := Query.exists_confined hw hs
    have hrows : (Query.ofSpec w s).rows a timeout (some s.table) =
        (Query.ofSpec w s).rows b timeout (some s.table) := by
      by_cases hblog : s.table = "Blog"
      · have hlimit := hconfined.limit.1
        exact Query.rows_eq_of_agreeOn
          (Query.crossesAuthorOnly_of_confined hrelations hblog hconfined)
          (Query.authorColumns_ne_nil hw) (by omega)
          (Query.readsOnly_of_confined hrelations hblog hconfined) hagree ha hb _ _
      · have hother : StoreTable.ofName? ((Query.ofSpec w s).servedTable (some s.table)) ≠
            some .blog := by
          rwa [Query.servedTable_ofSpec, ne_eq, StoreTable.ofName?_eq_blog]
        rw [Query.rows_eq_error a timeout hother, Query.rows_eq_error b timeout hother]
    rw [Attempt.ok_bind, Attempt.ok_bind, hrows]

namespace Whitelist

/-- A document that shows the ids and titles of blogs and the ids and names of users. -/
def narrowDocument : Value :=
  .object [("defaults", .object [("fields", .list (names ["id"]))]),
    ("tables", .list [
      tableDocument "Blog" ["id", "title"]
        [.object [("name", .text "user"), ("table", .text "User"),
          ("identifying", .list (names ["id", "username"]))]],
      tableDocument "User" ["id", "username"] []])]

def narrow : Whitelist where
  version := .int 1
  tables := [
    (.text "Blog", ⟨.text "Blog", names ["id", "title"], [(.text "user", authorRelation)]⟩),
    simpleTable "User" ["id", "username"]]
  defaultFields := names ["id"]
  defaultLimit := 10
  maxLimit := 100

theorem ofDocument_narrowDocument : ofDocument narrowDocument = .ok narrow := by
  cbv

theorem relatesAuthorOnly_narrow : narrow.RelatesAuthorOnly := by
  intro t ht p hp
  have htable : narrow.table? (.text "Blog") =
      some ⟨.text "Blog", names ["id", "title"], [(.text "user", authorRelation)]⟩ := by
    cbv
  rw [htable] at ht
  cases ht
  rw [List.mem_singleton.mp hp]
  exact ⟨rfl, rfl⟩

theorem showsOwn_narrow {name : String} (h : narrow.ShowsOwn name) :
    name = "id" ∨ name = "title" := by
  have hfields : narrow.allowedFields (.text "Blog") = [.text "id", .text "title"] := by
    cbv
  rw [ShowsOwn, hfields] at h
  simpa using h

theorem showsAuthor_narrow {name : String} (h : narrow.ShowsAuthor name) :
    name = "id" ∨ name = "username" := by
  have hfields : narrow.allowedFields (.text "User") = [.text "id", .text "username"] := by
    cbv
  have hidentifying : Query.identifying (narrow.table? (.text "Blog")) Select.authorRelation =
      [.text "id", .text "username"] := by
    cbv
  rw [ShowsAuthor, hfields, hidentifying, or_self] at h
  simpa using h

end Whitelist

def veiledStore : Store :=
  { Query.smallStore with
    users := Query.smallStore.users.map fun u => { u with email := "?" }
    blogs := Query.smallStore.blogs.map fun b => { b with content := "?", likeCount := 1 - b.id } }

theorem agreeOn_veiledStore : Query.smallStore.AgreeOn Whitelist.narrow.ShowsOwn
    Whitelist.narrow.ShowsAuthor veiledStore := by
  have hsound := Query.sound_smallStore
  constructor
  case blogIds => simp [veiledStore]
  case userIds => simp [veiledStore]
  case blogs =>
    intro x hx y hy hid
    obtain ⟨b, hb, rfl⟩ := List.mem_map.mp hy
    obtain rfl : x = b := List.inj_on_of_nodup_map hsound.blogs hx hb hid
    refine ⟨rfl, rfl, ?_⟩
    intro name hname
    rcases Whitelist.showsOwn_narrow hname with rfl | rfl <;> rfl
  case users =>
    intro u hu v hv hid name hname
    obtain ⟨u', hu', rfl⟩ := List.mem_map.mp hv
    obtain rfl : u = u' := List.inj_on_of_nodup_map hsound.users hu hu' hid
    rcases Whitelist.showsAuthor_narrow hname with rfl | rfl <;> rfl

def pryingRequest : Value :=
  .object [("action", .text "select"), ("table", .text "Blog"),
    ("fields", .list [.text "title", .text "content", .text "likeCount"]),
    ("filters", .list [
      .object [("field", .text "likeCount"), ("op", .text "gte"), ("value", .int 5)],
      .object [("field", .text "user.email"), ("op", .text "contains"), ("value", .text "@")],
      .object [("field", .text "user.username"), ("op", .text "contains"),
        ("value", .text "a")]])]

theorem runSpec_eq_veiledStore :
    Whitelist.ofDocument Whitelist.narrowDocument = .ok Whitelist.narrow ∧
      Whitelist.narrow.RelatesAuthorOnly ∧ Query.smallStore ≠ veiledStore ∧
      Query.smallStore.Keyed ∧ veiledStore.Keyed ∧
      Query.smallStore.AgreeOn Whitelist.narrow.ShowsOwn Whitelist.narrow.ShowsAuthor
        veiledStore ∧
      runSpec Whitelist.narrow Query.smallStore .null pryingRequest =
        runSpec Whitelist.narrow veiledStore .null pryingRequest := by
  have hsmall : Query.smallStore.Keyed :=
    ⟨Query.sound_smallStore.blogs, Query.sound_smallStore.users⟩
  have hveiled : veiledStore.Keyed := ⟨by decide, by decide⟩
  refine ⟨Whitelist.ofDocument_narrowDocument, Whitelist.relatesAuthorOnly_narrow, by decide,
    hsmall, hveiled, agreeOn_veiledStore, ?_⟩
  exact runSpec_eq_of_agreeOn Whitelist.ofDocument_narrowDocument
    Whitelist.relatesAuthorOnly_narrow hsmall hveiled agreeOn_veiledStore _ _

end QueryGate
