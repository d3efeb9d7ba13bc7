import QueryGate.Proofs.Attempt
import QueryGate.Provider.CallError

/-!
# How an error carries its envelope

An envelope comes as the content of a response, as the body of the error or as its data, and each
time either as an object or as a text that the object is read from. `CallError.Bears` lists these
ways and `CallError.envelope_eq_ok_iff` shows that there are no others. Main statement:
`CallError.normalize_eq_of_bears`, the way makes no difference.
-/

set_option autoImplicit false

namespace QueryGate

theorem Value.ne_null_of_isTruthy {v : Value} (h : v.isTruthy) : v ≠ .null := by
  rintro rfl
  cases h

/-- The object with these members, as it is or written down. -/
inductive Value.Holds (members : List (String × Value)) : Value → Prop where
  | itself : Holds members (.object members)
  | written {s : String} (hread : Json.read s = .ok (.object members)) : Holds members (.text s)

theorem ErrorResponse.content_of_document {r : ErrorResponse} {v : Value} (h : r.document = .ok v) :
    r.content = .ok v := by
  rw [content, h]

namespace CallError

def IsUnanswered (e : CallError) : Prop :=
  ∀ r, e.response = some r → ∃ content, r.content = .ok content ∧ ¬content.isTruthy

/-- The object arrives with the error. A response comes before the body, the body before the
data. -/
inductive Bears (e : CallError) (members : List (String × Value)) : Prop where
  | response {r : ErrorResponse} {content : Value} (hresponse : e.response = some r)
      (hcontent : r.content = .ok content) (hholds : content.Holds members)
  | body (hunanswered : e.IsUnanswered) (hholds : e.body.Holds members)
  | data (hunanswered : e.IsUnanswered) (hbody : ¬e.body.isTruthy) (hholds : e.data.Holds members)

variable {e e' : CallError} {members : List (String × Value)} {v : Value}

theorem isTruthy_of_holds (hne : members ≠ []) (h : v.Holds members) : v.isTruthy := by
  cases h with
  | itself => simpa [Value.isTruthy] using hne
  | @written s hread =>
    have hs : s ≠ "" := by
      rintro rfl
      cases hread
    simpa [Value.isTruthy] using hs

theorem firstTruthy_eq_ok_iff {content body data : Value} (htruthy : v.isTruthy) :
    (if content.isTruthy then .ok content
      else if body.isTruthy then .ok body
      else if data.isTruthy then .ok data
      else .ok .null : Attempt Value) = .ok v ↔
      v = content ∨ ¬content.isTruthy ∧ (v = body ∨ ¬body.isTruthy ∧ v = data) := by
  have hnull := Value.ne_null_of_isTruthy htruthy
  split_ifs with hcontent hbody hdata
  all_goals grind

/-- What is carried is the content of the response, or without one the body or else the data. -/
theorem carried_eq_ok_iff (htruthy : v.isTruthy) :
    e.carried = .ok v ↔
      (∃ r, e.response = some r ∧ r.content = .ok v) ∨
        e.IsUnanswered ∧ (v = e.body ∨ ¬e.body.isTruthy ∧ v = e.data) := by
  unfold carried IsUnanswered
  cases e.response with
  | none =>
    dsimp only
    rw [Attempt.ok_bind, firstTruthy_eq_ok_iff htruthy]
    simp [Value.ne_null_of_isTruthy htruthy, Value.isTruthy]
  | some r =>
    dsimp only
    rw [Attempt.bind_eq_ok]
    simp only [firstTruthy_eq_ok_iff htruthy]
    constructor
    · rintro ⟨content, hcontent, rfl | ⟨hfalsy, hrest⟩⟩
      · exact .inl ⟨r, rfl, hcontent⟩
      · refine .inr ⟨?_, hrest⟩
        rintro r' ⟨⟩
        exact ⟨content, hcontent, hfalsy⟩
    · rintro (⟨r', ⟨⟩, hcontent⟩ | ⟨hunanswered, hrest⟩)
      · exact ⟨v, hcontent, .inl rfl⟩
      · obtain ⟨content, hcontent, hfalsy⟩ := hunanswered r rfl
        exact ⟨content, hcontent, .inr ⟨hfalsy, hrest⟩⟩

theorem envelope_eq_ok_iff_holds :
    e.envelope = .ok (.object members) ↔ ∃ v, e.carried = .ok v ∧ v.Holds members := by
  rw [envelope, Attempt.bind_eq_ok]
  refine exists_congr fun v => and_congr_right fun _ => ?_
  constructor
  · intro h
    cases v with
    | text s =>
      dsimp only at h
      split at h
      · rename_i found hread
        cases h
        exact .written hread
      · split_ifs at h
        cases h
    | object found =>
      cases h
      exact .itself
    | _ => cases h
  · rintro (_ | hread)
    · rfl
    · dsimp only
      rw [hread]

theorem envelope_eq_ok_iff (hne : members ≠ []) :
    e.envelope = .ok (.object members) ↔ e.Bears members := by
  rw [envelope_eq_ok_iff_holds]
  constructor
  · rintro ⟨v, hv, hholds⟩
    rcases (carried_eq_ok_iff (isTruthy_of_holds hne hholds)).mp hv with
      ⟨r, hresponse, hcontent⟩ | ⟨hunanswered, rfl | ⟨hbody, rfl⟩⟩
    · exact .response hresponse hcontent hholds
    · exact .body hunanswered hholds
    · exact .data hunanswered hbody hholds
  · intro h
    cases h with
    | @response r content hresponse hcontent hholds =>
      refine ⟨content, (carried_eq_ok_iff (isTruthy_of_holds hne hholds)).mpr ?_, hholds⟩
      exact .inl ⟨r, hresponse, hcontent⟩
    | body hunanswered hholds =>
      refine ⟨e.body, (carried_eq_ok_iff (isTruthy_of_holds hne hholds)).mpr ?_, hholds⟩
      exact .inr ⟨hunanswered, .inl rfl⟩
    | data hunanswered hbody hholds =>
      refine ⟨e.data, (carried_eq_ok_iff (isTruthy_of_holds hne hholds)).mpr ?_, hholds⟩
      exact .inr ⟨hunanswered, .inr ⟨hbody, rfl⟩⟩

/-- An error that carries an object becomes what the object tells about its message and status. -/
theorem normalize_of_bears (hne : members ≠ []) (h : e.Bears members) :
    e.normalize =
      (Findings.mk e.rawMessage .null .null).withEnvelope (.object members) >>= fun f =>
        .ok (QueryError.provider f.message
          (if f.status.isNull then e.transportStatus else f.status) f.retryAfter) := by
  rw [normalize, findings, (envelope_eq_ok_iff hne).mpr h]
  rfl

/-- Errors that carry the same object with the same message and status become the same provider
error, whichever way each of them carries it. -/
theorem normalize_eq_of_bears (hne : members ≠ []) (h : e.Bears members) (h' : e'.Bears members)
    (hmessage : e.rawMessage = e'.rawMessage) (hstatus : e.transportStatus = e'.transportStatus) :
    e.normalize = e'.normalize := by
  rw [normalize_of_bears hne h, normalize_of_bears hne h', hmessage, hstatus]

def limitMembers : List (String × Value) :=
  [("error", .object
    [("code", .int 429), ("message", .text "rate limited"),
      ("details", .list [.object [("retryDelay", .text "13.5s")]])])]

def answeredError : CallError where
  name := "ClientError"
  text := "429"
  response := some ⟨.ok (.object limitMembers), .ok (.text ""), .int 429⟩

def writtenError : CallError where
  name := "ApiError"
  text := "429"
  status := .int 429
  body := .object []
  data := .text ("\x7b\"error\": \x7b\"code\": 429, \"message\": \"rate limited\", " ++
    "\"details\": [\x7b\"retryDelay\": \"13.5s\"\x7d]\x7d\x7d")

theorem bears_answeredError : answeredError.Bears limitMembers :=
  .response rfl (ErrorResponse.content_of_document rfl) .itself

theorem bears_writtenError : writtenError.Bears limitMembers := by
  refine .data ?_ (by decide) (.written rfl)
  rintro r ⟨⟩

theorem normalize_answeredError_eq_writtenError :
    answeredError.rawMessage = "429" ∧ answeredError.transportStatus = .int 429 ∧
      answeredError.normalize = writtenError.normalize := by
  refine ⟨by decide, by rfl, ?_⟩
  exact normalize_eq_of_bears (List.cons_ne_nil _ _) bears_answeredError bears_writtenError
    (by decide) rfl

end CallError

end QueryGate
