import QueryGate.Provider.CallError
import QueryGate.Provider.Content
import QueryGate.Provider.Generated
import QueryGate.Settings

/-!
# Providers

Every provider answers a prompt in one step: at once, or by one request whose reply is read. That
step is a `Plan`, so no provider can send a second request. `Provider.planNamed` picks the provider
and makes its plan; `Plan.result` carries it out on a network.
-/

set_option autoImplicit false

namespace QueryGate

/-- The providers of generated text. -/
inductive Provider where
  | mock
  | ollama
  | gemini
  | openai
  | anthropic
deriving DecidableEq, Repr

/-- How a call comes to its result: at once, or from the reply to one request. -/
inductive Plan where
  | done (result : Attempt Value)
  | ask (request : Request) (read : Reply → Attempt Value)

namespace Plan

def result (network : Network) : Plan → Attempt Value
  | .done r => r
  | .ask request read => read (network request)

def requests : Plan → List Request
  | .done _ => []
  | .ask request _ => [request]

end Plan

namespace Provider

def all : List Provider := [.mock, .ollama, .gemini, .openai, .anthropic]

def name : Provider → String
  | .mock => "mock"
  | .ollama => "ollama"
  | .gemini => "gemini"
  | .openai => "openai"
  | .anthropic => "anthropic"

def ofName? (name : String) : Option Provider := all.find? (·.name == name)

def resolve (s : Settings) (given : Option String) : String :=
  Text.lower <| match given with
    | some name => if name.isEmpty then s.provider else name
    | none => s.provider

def secondsText (timeout : Value) : Attempt String :=
  match timeout with
  | .float x => .ok (NumberStyle.general.text x)
  | .int n =>
    let x := Binary64.ofInt n
    if x.isFinite then .ok (NumberStyle.general.text x)
    else .error (.tooLarge "int too large to convert to float")
  | .bool b => .ok (NumberStyle.general.text (Binary64.ofInt b.toNat))
  | .text _ => .error (.badValue "Unknown format code 'g' for object of type 'str'")
  | v => .error (.wrongKind ("unsupported format string passed to " ++ v.kindName ++ ".__format__"))

def timedOut {α : Type} (timeout : Value) : Attempt α := do
  .error (.query (.providerTimeout (← secondsText timeout)))

def responseOf (r : Response) (content : List UInt8) : ErrorResponse :=
  ⟨Json.body content, (r.text content).map .text, .int r.status⟩

def statusError (text : String) (r : Response) (content : List UInt8) : CallError :=
  { name := "HTTPStatusError", text := text, response := some (responseOf r content) }

def obstructed {α : Type} : Obstacle → Attempt α
  | .header text => .error (.notAscii text)
  | .coding e =>
    CallError.raise
      { name := "DecodingError",
        text := "Error -3 while decompressing data: " ++ e.message }
  | .relative url => .error (.badValue ("unknown url type: " ++ Value.quotedText url.text))
  | .location e =>
    CallError.raise
      { name := "RemoteProtocolError",
        text := "Invalid URL in location header: " ++ e.message ++ "." }
  | .locationPath e => .error (.unreadableUrl e.message)

def documentOrText (r : Response) (content : List UInt8) : Attempt Value :=
  match Json.readBody content with
  | .ok v => .ok v
  | .error f => if f.isMalformed then (r.text content).map .text else .error (f.toFailure content)

def receive (request : Request) (reply : Reply) : Attempt Value :=
  match reply with
  | .trouble kind message =>
    if kind.isTimeout then timedOut request.timeout
    else CallError.raise { name := kind.name, text := message }
  | .response r =>
    match r.arrive request.url with
    | .error o => obstructed o
    | .ok content =>
      if Http.isSuccess r.status then documentOrText r content
      else (statusError (Http.statusMessage request.url r) r content).raise

def statusCode (r : Response) : String := "Error code: " ++ toString r.status

def terseError (r : Response) (content : List UInt8) : Attempt CallError :=
  .ok { name := "APIStatusError", text := statusCode r, message := .text (statusCode r),
        status := .int r.status, response := some (responseOf r content) }

def detailedError (r : Response) (content : List UInt8) : Attempt CallError := do
  let text := Text.trim (← r.text content)
  let (message, body) := match Json.read text with
    | .ok v => (statusCode r ++ " - " ++ v.shown, v)
    | .error _ => (if text.isEmpty then statusCode r else text, .text text)
  .ok { name := "APIStatusError", text := message, message := .text message,
        status := .int r.status, response := some (responseOf r content), body := body }

/-- The document of a response that a client received. Other contents than documents are texts,
unless they turn out to be documents. -/
def clientDocument (r : Response) (content : List UInt8) : Attempt Value :=
  if "json".toList.isSuffixOf (MediaType.kind (r.contentType?.getD "*")).toList then
    Json.body content
  else
    match Json.readBody content with
    | .ok v => .ok v
    | .error _ => (r.text content).map .text

def clientReceive (rejected : Response → List UInt8 → Attempt CallError) (request : Request)
    (reply : Reply) : Attempt Value :=
  match reply with
  | .trouble kind _ => if kind.isTimeout then timedOut request.timeout else disconnected
  | .response r =>
    match r.arrive request.url with
    | .error _ => disconnected
    | .ok content =>
      if Http.isSuccess r.status then clientDocument r content
      else do
        let e ← rejected r content
        e.raise
where
  disconnected : Attempt Value :=
    CallError.raise
      { name := "APIConnectionError", text := "Connection error.",
        message := .text "Connection error." }

def messages (prompt : String) : Value :=
  .list [.object [("role", .text "user"), ("content", .text prompt)]]

def below (base path : String) (query : Option String) : Attempt Url :=
  let url := do
    let url ← Url.parse (Text.trimEnd '/' base ++ path)
    let url ← url.target {}
    match query with
    | some q => url.withQuery q
    | none => .ok url
  url.mapError fun e => .unreadableUrl e.message

def echo (prompt : String) : String := "[MOCK] " ++ String.ofList (prompt.toList.take 200)

def ollamaRequest (s : Settings) (prompt : String) (timeout : Value) : Attempt Request := do
  let url ← below s.ollamaUrl "/generate" none
  let document : Value :=
    .object [("model", .text s.model), ("prompt", .text prompt), ("stream", .bool false)]
  .ok ⟨url, document, timeout⟩

def geminiRequest (s : Settings) (prompt : String) (timeout : Value) : Attempt Request := do
  let url ← below s.geminiUrl ("/models/" ++ s.model ++ ":generateContent")
    (some ("key=" ++ Percent.encodeForm s.geminiKey))
  let part : Value := .object [("text", .text prompt)]
  let document : Value :=
    .object [("contents", .list [.object [("role", .text "user"), ("parts", .list [part])]])]
  .ok ⟨url, document, timeout⟩

def openaiRequest (prompt : String) (timeout : Value) : Request where
  url := { scheme := "https", host := "api.openai.com", path := "/v1/chat/completions" }
  document := .object [("messages", messages prompt), ("model", .text "gpt-4o-mini"),
    ("max_tokens", .int 512), ("temperature", .float (Binary64.zero false))]
  timeout := timeout

def anthropicRequest (prompt : String) (timeout : Value) : Request where
  url := { scheme := "https", host := "api.anthropic.com", path := "/v1/messages" }
  document := .object [("max_tokens", .int 512), ("messages", messages prompt),
    ("model", .text "claude-3-haiku-20240307")]
  timeout := timeout

def withKey (setting key : String) (plan : Plan) : Plan :=
  if key.isEmpty then .done (.error (.keyNotSet setting)) else plan

def withPackage (missing : List String) (package : String) (plan : Plan) : Plan :=
  if missing.contains package then .done (.error (.packageMissing package)) else plan

def withHeader (text : String) (plan : Plan) : Plan :=
  if text.toList.all (·.toNat < 0x80) then plan else .done (.error (.notAscii text))

def asking (request : Attempt Request) (read : Request → Reply → Attempt Value) : Plan :=
  match request with
  | .ok request => .ask request (read request)
  | .error e => .done (.error e)

/-- How a provider answers a prompt. -/
def plan (s : Settings) (missing : List String) (prompt : String) (timeout : Value) :
    Provider → Plan
  | .mock => .done (.ok (.text (echo prompt)))
  | .ollama =>
    asking (ollamaRequest s prompt timeout) fun request reply => do
      let text ← Generated.anyText (← receive request reply)
      .ok (.text text)
  | .gemini =>
    withKey "llm_api_key" s.geminiKey <|
      asking (geminiRequest s prompt timeout) fun request reply => do
        let text ← Generated.candidateText (← receive request reply)
        .ok (.text text)
  | .openai =>
    let request := openaiRequest prompt timeout
    withKey "openai_api_key" s.openaiKey <| withPackage missing "openai" <|
      withHeader ("Bearer " ++ s.openaiKey) <| .ask request fun reply => do
        Generated.messageContent (← clientReceive terseError request reply)
  | .anthropic =>
    let request := anthropicRequest prompt timeout
    withKey "anthropic_api_key" s.anthropicKey <| withPackage missing "anthropic" <|
      withHeader s.anthropicKey <| .ask request fun reply => do
        Generated.blockText (← clientReceive detailedError request reply)

/-- How the provider with a name answers a prompt; without a timeout that of the settings holds. -/
def planNamed (s : Settings) (missing : List String) (given : Option String) (prompt : String)
    (timeout : Value) : Plan :=
  let name := resolve s given
  match ofName? name with
  | none => .done (.error (.unsupportedProvider name))
  | some provider =>
    provider.plan s missing prompt (if timeout.isNull then s.queryTimeout else timeout)

end Provider

end QueryGate
