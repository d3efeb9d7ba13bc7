import QueryGate.Provider.Basic

/-!
# Chat

Free text goes in, the text of the model comes out. A failure never leaves this module: it is
logged, and answered with a fixed text.
-/

set_option autoImplicit false

namespace QueryGate.Chat

def fallbackText : String := "Error: failed to generate response"

structure Outcome where
  text : Value
  log : List String

def logLine (e : QueryError) : String :=
  "Chat request failed: " ++ e.message ++ " (status=" ++ e.status.shown ++ ", retry_after=" ++
    e.retryAfter.shown ++ ")"

def ofResult : Attempt Value → Attempt Outcome
  | .ok v => .ok ⟨if v.isTruthy then v else .text "", []⟩
  | .error e => (QueryError.ofFailure e).map fun e => ⟨.text fallbackText, [logLine e]⟩

/-- How a message is answered: only texts that hold more than blanks reach a provider. -/
def plan (s : Settings) (missing : List String) (given : Option String) (message : Value) : Plan :=
  match message with
  | .text m =>
    if Text.isAllBlank m then .done (.ok (.text ""))
    else Provider.planNamed s missing given m s.chatTimeout
  | _ => .done (.ok (.text ""))

def outcome (s : Settings) (missing : List String) (network : Network) (given : Option String)
    (message : Value) : Attempt Outcome :=
  ofResult ((plan s missing given message).result network)

end QueryGate.Chat
