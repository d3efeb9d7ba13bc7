import QueryGate.Json.Printer
import QueryGate.Value.Access

/-!
# Generated text

Where the documents of the providers hold the text that the model generated. `Generated.anyText`
knows several shapes and writes out any other document; the other readers follow the one shape of
their provider, and fail on values that do not have it.
-/

set_option autoImplicit false

namespace QueryGate.Generated

def textUnder? (v : Value) (keys : List String) : Option String :=
  keys.findSome? fun key => (v.memberD key).text?

/-- The text of the first choice, if that is an object: its own, or that of its message. -/
def choiceText? (v : Value) : Attempt (Option String) :=
  match v.memberD "choices" with
  | .list (.object members :: _) =>
    let choice : Value := .object members
    match choice.memberD "text" with
    | .text s => .ok (some s)
    | _ => do
      let message := Value.orElse (choice.member? "message") (.object [])
      let content ← message.optional? "content"
      .ok (content.bind Value.text?)
  | _ => .ok none

def anyText (v : Value) : Attempt String :=
  if !v.isTruthy then .ok ""
  else
    match v with
    | .text s => .ok s
    | .object _ =>
      match textUnder? v ["response", "text", "output"] with
      | some s => .ok s
      | none => do
        match ← choiceText? v with
        | some s => .ok s
        | none => .ok (Json.write .spaced v)
    | v => .ok (Json.write .spaced v)

def partTexts (parts : List Value) : List Value :=
  parts.filterMap fun
    | .object members => some ((Assoc.get? "text" members).getD (.text ""))
    | _ => none

def join (position : Nat) : List Value → Attempt String
  | [] => .ok ""
  | .text s :: rest => (join (position + 1) rest).map (s ++ ·)
  | v :: _ => .error (.wrongKind ("sequence item " ++ toString position ++
      ": expected str instance, " ++ v.kindName ++ " found"))

def candidateParts (candidate : Value) : Attempt Value := do
  let content ← candidate.optional? "content"
  let parts ← (Value.orElse content (.object [])).optional? "parts"
  .ok (Value.orElse parts (.list []))

def candidateText (v : Value) : Attempt String :=
  match v with
  | .object _ => do
    let candidates := Value.orElse (v.member? "candidates") (.list [])
    if candidates.isTruthy then
      let parts ← candidateParts (← candidates.first)
      join 0 (partTexts (← parts.items))
    else .ok ""
  | v => anyText v

def messageContent (v : Value) : Attempt Value := do
  let choices ← v.field "choices"
  let choice ← choices.first
  let message ← choice.field "message"
  let content ← message.field "content"
  (Value.orElse (some content) (.text "")).sized

def textlessBlocks : List (String × String) := [
  ("thinking", "ThinkingBlock"), ("redacted_thinking", "RedactedThinkingBlock"),
  ("tool_use", "ToolUseBlock"), ("server_tool_use", "ServerToolUseBlock"),
  ("web_search_tool_result", "WebSearchToolResultBlock")]

/-- The text of a block. A block of a kind without text has one only if the field is there. -/
def textOfBlock (block : Value) : Attempt Value :=
  let record? := ((block.memberD "type").text?).bind (Assoc.get? · textlessBlocks)
  match record?, block.member? "text" with
  | some record, none => .error (.noMember record "text")
  | _, _ => block.field "text"

def blockText (v : Value) : Attempt Value := do
  let content ← v.field "content"
  if content.isTruthy then
    let text ← textOfBlock (← content.first)
    text.sized
  else .ok (.text "")

end QueryGate.Generated
