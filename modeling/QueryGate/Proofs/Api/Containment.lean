import QueryGate.Api.Endpoint
import QueryGate.Proofs.Pipeline
import QueryGate.Proofs.Query.Outline
import QueryGate.Proofs.Spec.Accepted
import QueryGate.Proofs.Store.Connection

/-!
# What the question endpoint lets out

Whatever is asked, and however the provider, the validator or the database fails, the caller gets
an object: an error for callers as its report, and every other failure as the same object. Rows
come from a pipeline that ended well and only then, and never more of them than the spec allows.
Main statement: `Service.containsFailures`.
-/

set_option autoImplicit false

namespace QueryGate

namespace QueryError

/-- The members tell of the error: its message and the tag of its class, and of a provider error
the status and the retry hint where they are known. -/
structure Tells (e : QueryError) (members : List (String × Value)) : Prop where
  error : Assoc.get? "error" members = some (.text e.message)
  kind : Assoc.get? "kind" members = some (.text e.category.kind)
  status : Assoc.get? "statusCode" members =
    if e.category.isProvider ∧ ¬e.status.isNull then some e.status else none
  retryAfter : Assoc.get? "retryAfterSeconds" members =
    if e.category.isProvider ∧ ¬e.retryAfter.isNull then some e.retryAfter else none
  keys : Assoc.keys members ⊆ ["error", "kind", "statusCode", "retryAfterSeconds"]
  nodup : (Assoc.keys members).Nodup

theorem tells_report (e : QueryError) : e.Tells e.report := by
  unfold report optionalMember
  cases hprovider : e.category.isProvider <;> cases hstatus : e.status.isNull <;>
    cases hretry : e.retryAfter.isNull <;>
    constructor <;> simp [Assoc.get?_cons, Assoc.keys, hprovider, hstatus, hretry, Assoc.get?]

end QueryError

/-- A database that keeps to the limit of every selection. -/
def Database.KeepsLimit (db : Database) : Prop :=
  ∀ store s rows, 0 ≤ s.limit → db.fetch store s = .ok rows → (rows.length : Int) ≤ s.limit

theorem Select.length_cut_le {α : Type} {limit : Int} (hlimit : 0 ≤ limit) (rows : List α) :
    ((cut limit rows).length : Int) ≤ limit := by
  rw [cut, if_neg (by omega), List.length_take]
  omega

theorem Database.keepsLimit_embedded : embedded.KeepsLimit := by
  intro store s rows hlimit hrows
  obtain ⟨bounds, -, hanswer⟩ := Attempt.bind_eq_ok.mp hrows
  rw [Select.eq_map_row_of_answer hanswer, List.length_map]
  exact Select.length_cut_le hlimit _

theorem Database.keepsLimit_sqlite : sqlite.KeepsLimit := by
  intro store s rows hlimit hrows
  obtain ⟨bounds, -, hrows⟩ := Attempt.bind_eq_ok.mp hrows
  obtain ⟨_, -, hrows⟩ := Attempt.bind_eq_ok.mp hrows
  obtain ⟨found, -, hanswer⟩ := Attempt.bind_eq_ok.mp hrows
  rw [Select.eq_map_row_of_answer hanswer, List.length_map]
  exact Select.length_cut_le hlimit _

namespace Query

variable {db : Database} {timeout : Value} {q : Query} {table : Option String}

theorem exists_fetch_of_select {s : Select} {c : Connection} {rows : List Value}
    (h : (Connection.select db s c).1 = .ok rows) : ∃ store, db.fetch store s = .ok rows := by
  cases hconvert : Connection.convert db.dialect s with
  | error e =>
    rw [Connection.select_of_error hconvert] at h
    cases h
  | ok _ =>
    rw [Connection.select_of_ok hconvert] at h
    rcases hsend : Connection.send db (Sql.selectText db.dialect s) c with ⟨e | ⟨⟩, c'⟩
    · rw [Attempt.bind_apply_of_error hsend] at h
      cases h
    · rw [Attempt.bind_apply_of_ok hsend] at h
      exact ⟨c'.store, h⟩

theorem exists_fetch {store : Store} {rows : List Value}
    (h : q.rowsOn db store timeout table = .ok rows) :
    ∃ s fetched, Select.ofQuery q = .ok s ∧ db.fetch fetched s = .ok rows := by
  by_cases hblog : StoreTable.ofName? (q.servedTable table) = some .blog
  · rw [rowsOn, execute_blogs hblog] at h
    rcases hprepare : Connection.prepare db timeout (Connection.fresh store).begun with
      ⟨e | ⟨⟩, prepared⟩
    · rw [Connection.readOnly_of_error _ hprepare] at h
      cases h
    · rw [Connection.readOnly_of_ok _ hprepare] at h
      have hwork : (selectBlogs db q prepared).1 = .ok rows := Attempt.mapError_eq_ok.mp h
      rw [selectBlogs_eq] at hwork
      split at hwork
      · cases hwork
      · rename_i s hs
        obtain ⟨fetched, hfetch⟩ := exists_fetch_of_select hwork
        exact ⟨s, fetched, hs, hfetch⟩
  · rw [rowsOn, execute_eq] at h
    split at h
    · rename_i hserved
      exact absurd hserved hblog
    · cases h

theorem length_rowsOn_le (hdb : db.KeepsLimit) {w : Whitelist} {s : Spec} (hlimit : 0 ≤ s.limit)
    {store : Store} {rows : List Value}
    (h : (ofSpec w s).rowsOn db store timeout table = .ok rows) :
    (rows.length : Int) ≤ s.limit := by
  obtain ⟨selection, fetched, hselection, hfetch⟩ := exists_fetch h
  have hcrosses := crossesAuthorOnly_ofSpec (Select.relation_of_ofQuery hselection)
  have hasks := (Select.ofQuery_eq_ok hcrosses).mp hselection
  have hsame : selection.limit = s.limit := hasks.limit
  rw [← hsame]
  exact hdb fetched selection rows (hsame ▸ hlimit) hfetch

end Query

theorem length_rows_le_of_runQueryOn {doc : Value} {w : Whitelist}
    (hw : Whitelist.ofDocument doc = .ok w) {db : Database} (hdb : db.KeepsLimit) {s : Settings}
    {store : Store} {network : Network} {given : Option String} {question : String} {a : Answer}
    (h : runQueryOn db s w store network given question = .ok a) :
    (a.rows.length : Int) ≤ a.spec.limit ∧ a.spec.limit ≤ w.maxLimit := by
  obtain ⟨raw, -, h⟩ := Attempt.bind_eq_ok.mp h
  obtain ⟨spec, hspec, h⟩ := Attempt.bind_eq_ok.mp h
  obtain ⟨rows, hrows, h⟩ := Attempt.bind_eq_ok.mp h
  cases h
  have hlimit : w.Permits spec.limit := by
    rw [(Whitelist.validate_eq_ok.mp hspec).limit]
    exact (Whitelist.bounded_of_ofDocument hw).permits_sanitizeLimit _
  have hnonneg : 0 ≤ spec.limit := Int.le_trans (by decide) hlimit.1
  exact ⟨Query.length_rowsOn_le hdb hnonneg hrows, hlimit.2⟩

namespace Service

/-- The value asks the question: it is its text, which is not all blank and not too long. -/
structure Asks (question : Value) (q : String) : Prop where
  text : question = .text q
  words : ¬Text.isAllBlank q
  length : q.length ≤ maxQuestionLength

def outcome (s : Service) (db : Database) (q : String) : Attempt Answer :=
  runQueryOn db s.settings s.whitelist s.store s.network none q

/-- The answer to a value tells nothing but what is meant for callers. A value that asks no question
is refused without regard to the service; rows are shown with their spec, within its limit, where
the pipeline ended well, and nowhere else; an error for callers is told as it is; all other
failures look the same. -/
structure ContainsFailures (s : Service) (db : Database) (question : Value) : Prop where
  isObject : ∃ members, s.answerQuestionOn db question = .object members
  refused : (∀ q, ¬Asks question q) → ∃ refusal ∈ [noQuestion, questionTooLong],
    ∀ (other : Service) (db' : Database), other.answerQuestionOn db' question = refusal
  hasRows_iff : ((s.answerQuestionOn db question).member? "rows").isSome ↔
    ∃ q a, Asks question q ∧ s.outcome db q = .ok a
  answered : ∀ q a, Asks question q → s.outcome db q = .ok a →
    s.answerQuestionOn db question =
        .object [("spec", a.spec.toObject), ("rows", .list a.rows)] ∧
      (a.rows.length : Int) ≤ a.spec.limit ∧ a.spec.limit ≤ s.whitelist.maxLimit
  reported : ∀ q e, Asks question q → s.outcome db q = .error (.query e) →
    ∃ members, s.answerQuestionOn db question = .object members ∧ e.Tells members
  hidden : ∀ q e, Asks question q → s.outcome db q = .error e → (∀ error, e ≠ .query error) →
    s.answerQuestionOn db question = internalError

section Answers

variable {s : Service} {db : Database} {question : Value} {q : String}

theorem answerQuestionOn_of_asks (h : Asks question q) (s : Service) (db : Database) :
    s.answerQuestionOn db question = ofResult (s.outcome db q) := by
  have hlength : ¬maxQuestionLength < q.length := by
    have := h.length
    omega
  rw [h.text, answerQuestionOn, if_neg h.words, if_neg hlength, outcome]

theorem exists_refusal (h : ∀ q, ¬Asks question q) : ∃ refusal ∈ [noQuestion, questionTooLong],
    ∀ (s : Service) (db : Database), s.answerQuestionOn db question = refusal := by
  cases question with
  | text q =>
    by_cases hblank : Text.isAllBlank q
    · refine ⟨noQuestion, by simp, ?_⟩
      intro s db
      rw [answerQuestionOn, if_pos hblank]
    · have hlong : maxQuestionLength < q.length := by
        by_contra hshort
        exact h q ⟨rfl, hblank, by omega⟩
      refine ⟨questionTooLong, by simp, ?_⟩
      intro s db
      rw [answerQuestionOn, if_neg hblank, if_pos hlong]
  | _ => exact ⟨noQuestion, by simp, fun _ _ => rfl⟩

theorem exists_members_ofResult (result : Attempt Answer) :
    ∃ members, ofResult result = .object members := by
  rcases result with e | a
  · cases e <;> exact ⟨_, rfl⟩
  · exact ⟨_, rfl⟩

theorem ofResult_eq_internalError {e : Failure} (h : ∀ error, e ≠ .query error) :
    ofResult (.error e) = internalError := by
  cases e with
  | query error => exact absurd rfl (h error)
  | _ => rfl

theorem hasRows_ofResult {result : Attempt Answer} :
    ((ofResult result).member? "rows").isSome ↔ ∃ a, result = .ok a := by
  rcases result with e | a
  · have hnone : (ofResult (.error e)).member? "rows" = none := by
      cases e with
      | query error =>
        refine Assoc.get?_eq_none.mpr ?_
        intro hrows
        have hkey := (QueryError.tells_report error).keys hrows
        simp at hkey
      | _ => rfl
    simp [hnone]
  · exact ⟨fun _ => ⟨a, rfl⟩, fun _ => rfl⟩

theorem Asks.unique {q' : String} (h : Asks question q) (h' : Asks question q') : q = q' :=
  Value.text.inj (h.text.symm.trans h'.text)

theorem isObject_of_refusal {refusal : Value} (h : refusal ∈ [noQuestion, questionTooLong]) :
    (∃ members, refusal = .object members) ∧ refusal.member? "rows" = none := by
  simp only [List.mem_cons, List.not_mem_nil, or_false] at h
  rcases h with rfl | rfl <;> exact ⟨⟨_, rfl⟩, rfl⟩

theorem containsFailures_of_not_asks (hno : ∀ q, ¬Asks question q) (s : Service) (db : Database) :
    s.ContainsFailures db question := by
  obtain ⟨refusal, hrefusal, hsame⟩ := exists_refusal hno
  obtain ⟨hobject, hrows⟩ := isObject_of_refusal hrefusal
  refine ⟨hsame s db ▸ hobject, fun _ => ⟨refusal, hrefusal, hsame⟩, ?_,
    fun q _ hq => absurd hq (hno q), fun q _ hq => absurd hq (hno q),
    fun q _ hq => absurd hq (hno q)⟩
  rw [hsame s db, hrows]
  constructor
  · intro h
    nomatch h
  · rintro ⟨q, -, hq, -⟩
    exact absurd hq (hno q)

theorem containsFailures_of_asks {doc : Value} (hw : Whitelist.ofDocument doc = .ok s.whitelist)
    (hdb : db.KeepsLimit) (hq : Asks question q) : s.ContainsFailures db question := by
  have hanswer := answerQuestionOn_of_asks hq s db
  refine ⟨hanswer ▸ exists_members_ofResult _, fun h => absurd hq (h q), ?_, ?_, ?_, ?_⟩
  · rw [hanswer, hasRows_ofResult]
    constructor
    · rintro ⟨a, ha⟩
      exact ⟨q, a, hq, ha⟩
    · rintro ⟨q', a, hq', ha⟩
      exact ⟨a, hq.unique hq' ▸ ha⟩
  · intro q' a hq' ha
    rw [answerQuestionOn_of_asks hq', ha]
    exact ⟨rfl, length_rows_le_of_runQueryOn hw hdb ha⟩
  · intro q' e hq' he
    rw [answerQuestionOn_of_asks hq', he]
    exact ⟨_, rfl, e.tells_report⟩
  · intro q' e hq' he hinternal
    rw [answerQuestionOn_of_asks hq', he]
    exact ofResult_eq_internalError hinternal

end Answers

/-- The question endpoint contains every failure, whatever it is asked and whatever the provider and
the database do. -/
theorem containsFailures {doc : Value} {s : Service}
    (hw : Whitelist.ofDocument doc = .ok s.whitelist) {db : Database} (hdb : db.KeepsLimit)
    (question : Value) : s.ContainsFailures db question := by
  by_cases hasks : ∃ q, Asks question q
  · obtain ⟨q, hq⟩ := hasks
    exact containsFailures_of_asks hw hdb hq
  · exact containsFailures_of_not_asks (fun q hq => hasks ⟨q, hq⟩) s db

/-- A database that gives up on the statement that follows the two it is prepared with. -/
def stalled : Database :=
  { Database.embedded with
    dialect := .postgres
    trouble := fun n =>
      if n = 3 then some "canceling statement due to Statement Timeout" else none }

def sample : Service := ⟨{}, Whitelist.standard, Query.smallStore, Http.unreachable⟩

theorem containsFailures_stalled :
    Whitelist.ofDocument Whitelist.standardDocument = .ok sample.whitelist ∧
      stalled.KeepsLimit ∧ sample.ContainsFailures stalled (.text "posts by user ada") := by
  have hlimit : stalled.KeepsLimit := Database.keepsLimit_embedded
  exact ⟨Whitelist.ofDocument_standardDocument, hlimit,
    containsFailures Whitelist.ofDocument_standardDocument hlimit _⟩

end Service

end QueryGate
