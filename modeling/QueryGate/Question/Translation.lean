import QueryGate.Json.Document
import QueryGate.Provider.Basic
import QueryGate.Question.Keywords
import QueryGate.Question.Prompt

/-!
# From questions to raw specs

Without a model the keywords of the question give the spec. With a model the prompt is sent to its
provider, and the object is recovered from the reply: the whole reply if it is an object, and
otherwise what stands from the first opening to the last closing brace.
-/

set_option autoImplicit false

namespace QueryGate.ModelReply

/-- The object that a text is; nothing for other documents and for texts that are none. -/
def object? (cs : List Char) : Attempt (Option Value) :=
  match Json.read (String.ofList cs) with
  | .ok (.object members) => .ok (some (.object members))
  | .ok _ => .ok none
  | .error f => if f.isMalformed then .ok none else .error (f.toFailure cs)

def braced? (cs : List Char) : Option (List Char) :=
  match ((cs.dropWhile (· != '{')).reverse.dropWhile (· != '}')).reverse with
  | [] => none
  | part => some part

/-- The object within a reply, blanks around the reply aside. -/
def recover (reply : String) : Attempt Value := do
  let cs := Text.trimBy Text.isBlank reply.toList
  match ← object? cs with
  | some v => .ok v
  | none =>
    match braced? cs with
    | none => .error (.query .unparsedReply)
    | some part =>
      match ← object? part with
      | some v => .ok v
      | none => .error (.query .unparsedReply)

end QueryGate.ModelReply

namespace QueryGate.Question

def readReply (reply : Value) : Attempt Value :=
  match reply with
  | .text s => ModelReply.recover s
  | v => if v.isTruthy then .error .replyNotText else ModelReply.recover ""

/-- How the reply to a question is come by. -/
def plan (s : Settings) (w : Whitelist) (given : Option String) (question : String) : Plan :=
  let name := Provider.resolve s given
  if name = Provider.mock.name then .done ((Keywords.reply w question).map .text)
  else
    match Prompt.build w question with
    | .error e => .done (.error e)
    | .ok prompt => Provider.planNamed s [] (some name) prompt .null

def rawSpec (s : Settings) (w : Whitelist) (network : Network) (given : Option String)
    (question : String) : Attempt Value := do
  let reply ← (plan s w given question).result network
  readReply reply

end QueryGate.Question
