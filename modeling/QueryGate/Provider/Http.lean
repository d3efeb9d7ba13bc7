import QueryGate.Text.Case
import QueryGate.Web.Url

/-!
# Requests and replies

What is sent to a provider over the network and what can come back: a response with its status, or
trouble on the way. `Http.statusMessage` is the text of a status that is no success.
-/

set_option autoImplicit false

namespace QueryGate

structure Request where
  url : Url
  document : Value
  timeout : Value

structure Response where
  status : Nat
  headers : List (String × String)
  body : String
deriving DecidableEq, Repr

/-- What can happen instead of a response. The kinds form a hierarchy, in which a general kind can
occur itself. -/
inductive NetworkTrouble where
  | general
  | request
  | transport
  | timeout
  | connectTimeout
  | readTimeout
  | writeTimeout
  | poolTimeout
  | network
  | connect
  | read
  | write
  | close
  | proxy
  | protocol
  | localProtocol
  | remoteProtocol
  | unsupportedProtocol
  | decoding
  | tooManyRedirects
deriving DecidableEq, Repr

namespace NetworkTrouble

def all : List NetworkTrouble :=
  [.general, .request, .transport, .timeout, .connectTimeout, .readTimeout, .writeTimeout,
    .poolTimeout, .network, .connect, .read, .write, .close, .proxy, .protocol, .localProtocol,
    .remoteProtocol, .unsupportedProtocol, .decoding, .tooManyRedirects]

def name : NetworkTrouble → String
  | .general => "HTTPError"
  | .request => "RequestError"
  | .transport => "TransportError"
  | .timeout => "TimeoutException"
  | .connectTimeout => "ConnectTimeout"
  | .readTimeout => "ReadTimeout"
  | .writeTimeout => "WriteTimeout"
  | .poolTimeout => "PoolTimeout"
  | .network => "NetworkError"
  | .connect => "ConnectError"
  | .read => "ReadError"
  | .write => "WriteError"
  | .close => "CloseError"
  | .proxy => "ProxyError"
  | .protocol => "ProtocolError"
  | .localProtocol => "LocalProtocolError"
  | .remoteProtocol => "RemoteProtocolError"
  | .unsupportedProtocol => "UnsupportedProtocol"
  | .decoding => "DecodingError"
  | .tooManyRedirects => "TooManyRedirects"

def ofName? (name : String) : Option NetworkTrouble := all.find? (·.name == name)

def isTimeout : NetworkTrouble → Bool
  | .timeout | .connectTimeout | .readTimeout | .writeTimeout | .poolTimeout => true
  | _ => false

end NetworkTrouble

inductive Reply where
  | response (r : Response)
  | trouble (kind : NetworkTrouble) (message : String)
deriving DecidableEq, Repr

abbrev Network := Request → Reply

namespace Http

def unreachable : Network := fun _ => .trouble .connect "no reply"

def phrases : List (Nat × String) := [
  (100, "Continue"), (101, "Switching Protocols"), (102, "Processing"), (103, "Early Hints"),
  (200, "OK"), (201, "Created"), (202, "Accepted"), (203, "Non-Authoritative Information"),
  (204, "No Content"), (205, "Reset Content"), (206, "Partial Content"), (207, "Multi-Status"),
  (208, "Already Reported"), (226, "IM Used"), (300, "Multiple Choices"),
  (301, "Moved Permanently"), (302, "Found"), (303, "See Other"), (304, "Not Modified"),
  (305, "Use Proxy"), (307, "Temporary Redirect"), (308, "Permanent Redirect"),
  (400, "Bad Request"), (401, "Unauthorized"), (402, "Payment Required"), (403, "Forbidden"),
  (404, "Not Found"), (405, "Method Not Allowed"), (406, "Not Acceptable"),
  (407, "Proxy Authentication Required"), (408, "Request Timeout"), (409, "Conflict"),
  (410, "Gone"), (411, "Length Required"), (412, "Precondition Failed"),
  (413, "Request Entity Too Large"), (414, "Request-URI Too Long"),
  (415, "Unsupported Media Type"), (416, "Requested Range Not Satisfiable"),
  (417, "Expectation Failed"), (418, "I'm a teapot"), (421, "Misdirected Request"),
  (422, "Unprocessable Entity"), (423, "Locked"), (424, "Failed Dependency"), (425, "Too Early"),
  (426, "Upgrade Required"), (428, "Precondition Required"), (429, "Too Many Requests"),
  (431, "Request Header Fields Too Large"), (451, "Unavailable For Legal Reasons"),
  (500, "Internal Server Error"), (501, "Not Implemented"), (502, "Bad Gateway"),
  (503, "Service Unavailable"), (504, "Gateway Timeout"), (505, "HTTP Version Not Supported"),
  (506, "Variant Also Negotiates"), (507, "Insufficient Storage"), (508, "Loop Detected"),
  (510, "Not Extended"), (511, "Network Authentication Required")]

def phrase (status : Nat) : String := (Assoc.get? status phrases).getD ""

def isSuccess (status : Nat) : Bool := status / 100 == 2

def statusClass (status : Nat) : String :=
  match status / 100 with
  | 1 => "Informational response"
  | 3 => "Redirect response"
  | 4 => "Client error"
  | 5 => "Server error"
  | _ => "Invalid status code"

def isRedirect (status : Nat) : Bool := [301, 302, 303, 307, 308].contains status

def header? (name : String) (headers : List (String × String)) : Option String :=
  (headers.find? fun h => h.1.toList.map Text.asciiLower == name.toList).map (·.2)

def foreignText? (headers : List (String × String)) : Option String :=
  (headers.flatMap fun h => [h.1, h.2]).find? (·.toList.any (0x80 ≤ ·.toNat))

def location? (r : Response) : Option String :=
  if isRedirect r.status then header? "location" r.headers else none

def statusMessage (url : Url) (r : Response) : String :=
  let location := (location? r).elim "" fun target => "\nRedirect location: '" ++ target ++ "'"
  statusClass r.status ++ " '" ++ toString r.status ++ " " ++ phrase r.status ++ "' for url '" ++
    url.text ++ "'" ++ location ++
    "\nFor more information check: https://developer.mozilla.org/en-US/docs/Web/HTTP/Status/" ++
    toString r.status

end Http

end QueryGate
