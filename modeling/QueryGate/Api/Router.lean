import QueryGate.Api.Endpoint
import QueryGate.Json.Body

/-!
# Requests to the service

A request is routed by its path and its method; a path that differs from a route only in slashes at
its end leads there too. Requests from other origins are allowed: they are answered with a header
that says so, and a request that only asks for permission gets it.
-/

set_option autoImplicit false

namespace QueryGate

structure ApiRequest where
  method : String
  path : String
  headers : List (String × String)
  body : String
deriving DecidableEq, Repr

inductive Content where
  | document (v : Value)
  | text (s : String)
  | complaints (details : List Detail)

structure ApiResponse where
  status : Nat
  content : Content
  allowedOrigin : Option String := none

inductive Route where
  | question
  | chat
  | catalog
  | tables
  | health
deriving DecidableEq, Repr

namespace Route

def all : List Route := [.question, .chat, .catalog, .tables, .health]

def path : Route → String
  | .question => "/api/nlquery"
  | .chat => "/api/chat"
  | .catalog => "/api/schema"
  | .tables => "/api/schema/tables"
  | .health => "/health"

def method : Route → String
  | .question | .chat => "POST"
  | .catalog | .tables | .health => "GET"

/-- The route with a path, with or without slashes at its end. A line break behind it is
overlooked. -/
def ofPath? (path : String) : Option Route :=
  all.find? fun r =>
    r.path == path || r.path ++ "\n" == path || r.path == Text.trimEnd '/' path ||
      r.path ++ "\n" == Text.trimEnd '/' path

end Route

namespace Content

mutual

/-- The value as it is sent: numbers that no document can hold become null, days and timestamps
become text. -/
def sendable : Value → Value
  | .float x => if x.isFinite then .float x else .null
  | .list items => .list (sendableItems items)
  | .object members => .object (sendableMembers members)
  | .moment t => .text t.isoText
  | .day d => .text d.isoText
  | v => v

def sendableItems : List Value → List Value
  | [] => []
  | v :: rest => sendable v :: sendableItems rest

def sendableMembers : List (String × Value) → List (String × Value)
  | [] => []
  | (k, v) :: rest => (k, sendable v) :: sendableMembers rest

end

end Content

namespace ApiResponse

def ofValue (v : Value) : ApiResponse := ⟨200, .document (Content.sendable v), none⟩

def detail (status : Nat) (text : String) : ApiResponse :=
  ⟨status, .document (.object [("detail", .text text)]), none⟩

def complaint (location : List Step) (kind : String) : ApiResponse :=
  ⟨422, .complaints [⟨.key "body" :: location, kind⟩], none⟩

end ApiResponse

namespace ApiRequest

def verb (r : ApiRequest) : String := String.ofList (r.method.toList.map Text.asciiUpper)

def home : Url := { scheme := "http", host := "localhost" }

def schemes : List String := ["http", "https", "ws", "wss"]

/-- The path for which the request asks. Its percent-encoding is undone twice, once for the address
and once for the path. -/
def routePath (r : ApiRequest) : Attempt String := do
  let url ← ((Url.parse r.path).bind (·.target home)).mapError fun e => .unreadableUrl e.message
  if schemes.contains url.scheme then .ok (Percent.decode (Percent.decode url.path))
  else .error (.missingKey (.text url.scheme))

def checkHeaders (r : ApiRequest) : Attempt Unit :=
  match Http.foreignText? r.headers with
  | some text => .error (.notAscii text)
  | none => .ok ()

def isJsonType (contentType : String) : Bool :=
  let kind := Text.lower (Text.trim (String.ofList (contentType.toList.takeWhile (· != ';'))))
  match Text.splitFirst '/' kind.toList with
  | some (main, sub) =>
    main == "application".toList && !sub.contains '/' &&
      (sub == "json".toList || "+json".toList.isSuffixOf sub)
  | none => false

def announcesDocument (r : ApiRequest) : Bool :=
  match Http.header? "content-type" r.headers with
  | some contentType => contentType.isEmpty || isJsonType contentType
  | none => true

def object (r : ApiRequest) : Except ApiResponse Value :=
  if r.body.isEmpty then .error (.complaint [] "missing")
  else if !r.announcesDocument then .error (.complaint [] "model_attributes_type")
  else
    match Json.readBody (Utf8.encode r.body) with
    | .ok (.object members) => .ok (.object members)
    | .ok _ => .error (.complaint [] "model_attributes_type")
    | .error (.undecodable _ _) => .error unparsed
    | .error (.unreadable f text) =>
      match f.complaint with
      | .tooDeep _ | .tooManyDigits => .error unparsed
      | _ => .error (.complaint [.index (f.position text)] "json_invalid")
where
  unparsed : ApiResponse := .detail 400 "There was an error parsing the body"

def asksPermission? (r : ApiRequest) : Option String :=
  if r.verb == "OPTIONS" then Http.header? "access-control-request-method" r.headers else none

end ApiRequest

namespace Service

def withMember (r : ApiRequest) (key : String) (answer : Value → Attempt Value) :
    Attempt ApiResponse :=
  match r.object with
  | .error response => .ok response
  | .ok v => (answer (v.memberD key)).map ApiResponse.ofValue

def perform (s : Service) (r : ApiRequest) : Route → Attempt ApiResponse
  | .question => withMember r "q" fun q => .ok (s.answerQuestion q)
  | .chat => withMember r "message" s.answerMessage
  | .catalog => s.catalog.map ApiResponse.ofValue
  | .tables => .ok (.ofValue s.tableList)
  | .health => .ok (.ofValue (.object [("status", .text "ok")]))

/-- The response to a request for a path, origins aside; nothing follows the headers of a HEAD
request. -/
def dispatch (s : Service) (r : ApiRequest) (path : String) : Attempt ApiResponse := do
  let response ← match Route.ofPath? path with
    | none => .ok (.detail 404 "Not Found")
    | some route =>
      if route.method == r.verb then s.perform r route else .ok (.detail 405 "Method Not Allowed")
  .ok (if r.verb == "HEAD" then { response with content := .text "" } else response)

def allowedMethods : List String := ["DELETE", "GET", "HEAD", "OPTIONS", "PATCH", "POST", "PUT"]

def permission (method : String) : ApiResponse :=
  if allowedMethods.contains method then ⟨200, .text "OK", some "*"⟩
  else ⟨400, .text "Disallowed CORS method", some "*"⟩

/-- The response to a request. A request with a cookie has its own origin allowed instead of all. -/
def respond (s : Service) (r : ApiRequest) : Attempt ApiResponse := do
  let path ← r.routePath
  r.checkHeaders
  match Http.header? "origin" r.headers, r.asksPermission? with
  | none, _ => s.dispatch r path
  | some _, some method => .ok (permission method)
  | some origin, none =>
    let response ← s.dispatch r path
    let allowed := if (Http.header? "cookie" r.headers).isSome then origin else "*"
    .ok { response with allowedOrigin := some allowed }

end Service

end QueryGate
