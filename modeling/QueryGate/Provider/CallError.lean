import QueryGate.Json.Document
import QueryGate.Provider.RetryDelay
import QueryGate.Value.Access

/-!
# Errors of provider calls

Whatever a call raised becomes one provider error with a message, a status and a retry hint.
Providers wrap these in an envelope, which may be the document of a response or a value that the
error carries, and which may be given as a text that has to be read first.
-/

set_option autoImplicit false

namespace QueryGate

namespace Failure

def leavesText : Failure → Bool
  | .invalid _ | .danglingRelation _ _ _ | .badDefaultLimit _ _ | .badValue _
  | .malformedReply _ | .undecodable _ => true
  | .noMember _ _ => true
  | .keyNotSet _ | .packageMissing _ | .unsupportedProvider _ | .tooDeep _ | .interrupted _ => true
  | _ => false

end Failure

/-- The response that an error carries. What it does not have is null. -/
structure ErrorResponse where
  document : Attempt Value
  text : Attempt Value
  status : Value

/-- An error raised by a call, seen from outside. What it does not carry is null. -/
structure CallError where
  name : String
  text : String
  message : Value := .null
  status : Value := .null
  response : Option ErrorResponse := none
  body : Value := .null
  data : Value := .null

namespace ErrorResponse

def content (r : ErrorResponse) : Attempt Value :=
  match r.document with
  | .ok v => .ok v
  | .error e => if e.leavesText then r.text else .error e

end ErrorResponse

namespace CallError

def textOfArguments : List Value → String
  | [] => ""
  | [v] => v.shown
  | vs => "(" ++ String.intercalate ", " (vs.map Value.quoted) ++ ")"

/-- The message as it was raised: the message of the error, else its text, else its name. -/
def rawMessage (e : CallError) : String :=
  match e.message with
  | .text s => if s.isEmpty then fallback else s
  | _ => fallback
where
  fallback : String := if e.text.isEmpty then e.name else e.text

/-- The first value that is worth a look: the content of the response, the body, the data. -/
def carried (e : CallError) : Attempt Value := do
  let content ← match e.response with
    | some r => r.content
    | none => .ok .null
  if content.isTruthy then .ok content
  else if e.body.isTruthy then .ok e.body
  else if e.data.isTruthy then .ok e.data
  else .ok .null

/-- The envelope: the carried value, or the document in it where it is a text that holds one. -/
def envelope (e : CallError) : Attempt Value := do
  match ← e.carried with
  | .text s =>
    match Json.read s with
    | .ok v => .ok v
    | .error f => if f.isMalformed then .ok (.text s) else .error (f.toFailure s.toList)
  | v => .ok v

/-- The status with which the call came back: that of the response, else that of the error. -/
def transportStatus (e : CallError) : Value :=
  let status := Value.orElse (e.response.map (·.status)) e.status
  match status with
  | .int _ | .bool _ => status
  | _ => .null

end CallError

/-- What is known about an error; status and delay are null where they are not known. -/
structure Findings where
  message : String
  status : Value
  retryAfter : Value

namespace Findings

def isRetryEntry (entry : Value) : Bool :=
  Text.occursIn "RetryInfo".toList ((entry.member? "@type").getD (.text "")).shown.toList ||
    (entry.member? "retryDelay").isSome

def entryDelay (entry : Value) : Attempt (Option Int) :=
  match entry with
  | .object _ =>
    if isRetryEntry entry then RetryDelay.ofValue (entry.memberD "retryDelay") else .ok none
  | _ => .ok none

def lastDelay (known : Value) : List Value → Attempt Value
  | [] => .ok known
  | entry :: rest => do
    match ← entryDelay entry with
    | some s => lastDelay (.int s) rest
    | none => lastDelay known rest

def withError (f : Findings) (error : Value) : Attempt Findings := do
  let message := match error.memberD "message" with
    | .text s => if s.isEmpty then f.message else s
    | _ => f.message
  let status := match error.memberD "code" with
    | .int n => .int n
    | _ => f.status
  let retryAfter ← match error.memberD "details" with
    | .list details => lastDelay f.retryAfter details
    | _ => .ok f.retryAfter
  .ok ⟨message, status, retryAfter⟩

/-- What an envelope tells: under the key `error`, or else by itself if it has a message. -/
def withEnvelope (f : Findings) (envelope : Value) : Attempt Findings :=
  match envelope.member? "error" with
  | some (.text message) => .ok { f with message }
  | some (.object members) => f.withError (.object members)
  | some _ => .ok f
  | none => if (envelope.member? "message").isSome then f.withError envelope else .ok f

end Findings

namespace CallError

def findings (e : CallError) : Attempt Findings := do
  let known : Findings := ⟨e.rawMessage, .null, .null⟩
  match ← e.envelope with
  | .object members => known.withEnvelope (.object members)
  | .null => do
    match ← RetryDelay.ofMessage known.message with
    | some s => .ok { known with retryAfter := .int s }
    | none => .ok known
  | _ => .ok known

/-- The provider error that stands for the error. -/
def normalize (e : CallError) : Attempt QueryError := do
  let f ← e.findings
  let status := if f.status.isNull then e.transportStatus else f.status
  .ok (QueryError.provider f.message status f.retryAfter)

def raise {α : Type} (e : CallError) : Attempt α := do
  let e ← e.normalize
  .error (.query e)

end CallError

namespace QueryError

/-- The provider error that stands for a failure of any kind; provider errors stay as they are. -/
def ofFailure (f : Failure) : Attempt QueryError :=
  match f with
  | .query e =>
    if e.category.isProvider then .ok e
    else
      CallError.normalize
        { name := e.category.kind, text := e.message, message := .text e.message }
  | f => CallError.normalize { name := "error", text := f.message }

end QueryError

end QueryGate
