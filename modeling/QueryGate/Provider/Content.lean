import QueryGate.Json.Body
import QueryGate.Provider.Http
import QueryGate.Web.Inflate
import QueryGate.Web.MediaType

/-!
# What a response holds

The content of a response is its body as sent, less the codings that a header names. Content can be
looked at as a document or as a text. Some responses never arrive as a whole, for reasons that
`Obstacle` tells apart.
-/

set_option autoImplicit false

namespace QueryGate

inductive Obstacle where
  | header (text : String)
  | coding (e : InflateError)
  | relative (url : Url)
  | location (e : UrlError)
  | locationPath (e : UrlError)
deriving DecidableEq, Repr

namespace Response

def contentType? (r : Response) : Option String := Http.header? "content-type" r.headers

def codings (r : Response) : List String :=
  let named := r.headers.filter fun h =>
    h.1.toList.map Text.asciiLower == "content-encoding".toList
  (named.flatMap fun h => Text.splitAll ',' h.2.toList).map fun name =>
    Text.lower (String.ofList (Text.trimBy Text.isBlank name))

/-- Bytes without a coding; other codings than those two are left as they are. A file of the first
kind starts with a byte that no text in UTF-8 holds. Bytes of the second kind may lack their
header. -/
def decodeCoding (bytes : List UInt8) : String → Except InflateError (List UInt8)
  | "gzip" => if bytes.length < 2 then .ok [] else .error .header
  | "deflate" =>
    match Inflate.wrapped? bytes with
    | .ok content => .ok content
    | .error _ => Inflate.raw? bytes
  | _ => .ok bytes

def content (r : Response) : Except InflateError (List UInt8) :=
  r.codings.reverse.foldlM decodeCoding (Utf8.encode r.body)

def contentAtHand (r : Response) : Attempt (List UInt8) :=
  match Http.foreignText? r.headers with
  | some text => .error (.notAscii text)
  | none => r.content.mapError fun e => .badCoding e.message

/-- What becomes of the location to which a response leads. It is looked at, but not gone to. -/
def checkLocation (url : Url) (r : Response) : Except Obstacle Unit :=
  match Http.location? r with
  | none => .ok ()
  | some target =>
    match Url.parse target with
    | .error e => .error (.location e)
    | .ok there =>
      if there.scheme.isEmpty || !there.host.isEmpty then .ok ()
      else ((there.withHost url.host).map fun _ => ()).mapError .locationPath

def arrive (url : Url) (r : Response) : Except Obstacle (List UInt8) := do
  match Http.foreignText? r.headers with
  | some text => .error (.header text)
  | none =>
    let content ← r.content.mapError .coding
    if url.scheme.isEmpty then .error (.relative url)
    else
      r.checkLocation url
      .ok content

def encoding (r : Response) : Encoding :=
  ((r.contentType?.bind (MediaType.parameter? "charset")).bind Encoding.ofLabel?).getD .utf8

def text (r : Response) (content : List UInt8) : Attempt String :=
  if r.encoding.lacksMark content then .error (.unmarkedText r.encoding.family)
  else .ok (String.ofList (r.encoding.decoded content).lenient)

end Response

end QueryGate
