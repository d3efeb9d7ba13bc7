import QueryGate.Number.Numeral
import QueryGate.Value.Display
import QueryGate.Web.Host

/-!
# Addresses of requests

An address is `scheme://user@host:number/path?query#fragment`, where every part may be missing.
`Url.parse` reads one and brings each part into the form in which it is sent; `Url.text` writes it.
An address without scheme or host is relative: of it, only path and query are kept for a request.
-/

set_option autoImplicit false

namespace QueryGate

/-- The parts of an address as they are sent. The number tells the services of a host apart. -/
structure Url where
  scheme : String := ""
  user : String := ""
  host : String := ""
  service : Option Int := none
  path : String := ""
  query : Option String := none
  fragment : Option String := none
deriving DecidableEq, Repr

inductive UrlError where
  | tooLong
  | partTooLong (part : String)
  | controlCharacter (c : Char) (position : Nat)
  | host (e : HostError)
  | service (number : String)
  | pathWithoutSlash
  | pathStart (mark : String)
deriving DecidableEq, Repr

namespace UrlError

def message : UrlError → String
  | .tooLong => "URL too long"
  | .partTooLong part => "URL component '" ++ part ++ "' too long"
  | .controlCharacter c position =>
    "Invalid non-printable ASCII character in URL, " ++ Value.quotedText c.toString ++
      " at position " ++ toString position ++ "."
  | .host (.fourNumbers name) => "Invalid IPv4 address: " ++ Value.quotedText name
  | .host (.groups name) => "Invalid IPv6 address: " ++ Value.quotedText name
  | .host (.domain name) => "Invalid IDNA hostname: " ++ Value.quotedText name
  | .service number => "Invalid port: " ++ Value.quotedText number
  | .pathWithoutSlash => "For absolute URLs, path must be empty or begin with '/'"
  | .pathStart mark => "Relative URLs cannot have a path starting with '" ++ mark ++ "'"

end UrlError

namespace Url

def maxLength : Nat := 65536

structure Written where
  scheme : String
  user : String
  host : String
  service : String
  path : String
  query : Option String
  fragment : Option String
deriving DecidableEq, Repr

def cut (atChar : Char → Bool) (cs : List Char) : List Char × List Char :=
  cs.span fun c => !atChar c

/-- The scheme in front of a colon, and the rest. It starts with a letter, but may be empty. -/
def cutScheme (cs : List Char) : String × List Char :=
  let (name, rest) := cut (fun c => !(c.isAlphanum || "+.-".toList.contains c)) cs
  match rest with
  | ':' :: behind =>
    if name.head?.all Char.isAlpha then (String.ofList name, behind) else ("", cs)
  | _ => ("", cs)

def cutUser (cs : List Char) : String × List Char :=
  let rest := Text.afterLast '@' cs
  (String.ofList (cs.take (cs.length - rest.length - 1)), rest)

def cutHost (cs : List Char) : List Char × List Char :=
  let behind := Text.afterLast ']' cs
  if cs.head? == some '[' && cs.contains ']' then (cs.take (cs.length - behind.length), behind)
  else cut (fun c => c == ':' || c == '@') cs

def cutBehind (mark : Char) (stops : List Char) (cs : List Char) : Option String × List Char :=
  match cs with
  | c :: rest =>
    if c = mark then
      let (part, rest) := cut stops.contains rest
      (some (String.ofList part), rest)
    else (none, cs)
  | [] => (none, cs)

def cutAuthority (cs : List Char) : List Char × List Char :=
  match cs with
  | '/' :: '/' :: rest => cut "/?#".toList.contains rest
  | _ => ([], cs)

def Written.ofText (s : String) : Written :=
  let (scheme, cs) := cutScheme s.toList
  let (authority, cs) := cutAuthority cs
  let (user, authority) := cutUser authority
  let (host, authority) := cutHost authority
  let service := match authority with
    | ':' :: rest => rest
    | rest => rest
  let (path, cs) := cut "?#".toList.contains cs
  let (query, cs) := cutBehind '?' ['#'] cs
  let (fragment, _) := cutBehind '#' [] cs
  ⟨scheme, user, String.ofList host, String.ofList service, String.ofList path, query, fragment⟩

def isKept (others : String) (c : Char) : Bool :=
  0x20 ≤ c.toNat && c.toNat ≤ 0x7E && !others.toList.contains c

def isFragmentChar : Char → Bool := isKept " \"<>\x60"

def isQueryChar : Char → Bool := isKept " \"#<>"

def isPathChar : Char → Bool := isKept " \"#<>?\x60\x7b\x7d"

def isUserChar : Char → Bool := isKept " \"#<>?\x60\x7b\x7d/;=@[\\]^|"

def standardService? (scheme : String) : Option Int :=
  match scheme with
  | "ftp" => some 21
  | "http" | "ws" => some 80
  | "https" | "wss" => some 443
  | _ => none

def readService (scheme number : String) : Except UrlError (Option Int) :=
  if number.isEmpty then .ok none
  else
    match readInt? number.toList with
    | .ok n => .ok (if standardService? scheme = some n then none else some n)
    | .error _ => .error (.service number)

def resolve (kept : List (List Char)) : List (List Char) → List (List Char)
  | [] => kept.reverse
  | segment :: rest =>
    if segment == ['.'] then resolve kept rest
    else if segment == ['.', '.'] then
      resolve (if kept == [[]] then kept else kept.drop 1) rest
    else resolve (segment :: kept) rest

def normalPath (path : String) : String :=
  let segments := resolve [] (Text.splitAll '/' path.toList)
  String.intercalate "/" (segments.map String.ofList)

def checkPath (path : String) (hasScheme hasAuthority : Bool) : Except UrlError Unit :=
  let cs := path.toList
  if hasAuthority then
    if cs.head?.all (· == '/') then .ok () else .error .pathWithoutSlash
  else if hasScheme then .ok ()
  else if ['/', '/'].isPrefixOf cs then .error (.pathStart "//")
  else if [':'].isPrefixOf cs then .error (.pathStart ":")
  else .ok ()

def ofWritten (w : Written) : Except UrlError Url := do
  let user := Percent.encode isUserChar w.user
  let host ← (Host.normalize w.host).mapError .host
  let service ← readService w.scheme w.service
  let hasScheme := !w.scheme.isEmpty
  let hasAuthority := !user.isEmpty || !host.isEmpty || service.isSome
  checkPath w.path hasScheme hasAuthority
  let path := if hasScheme || hasAuthority then normalPath w.path else w.path
  .ok ⟨String.ofList (w.scheme.toList.map Text.asciiLower), user, host, service,
    Percent.encode isPathChar path, w.query.map (Percent.encode isQueryChar),
    w.fragment.map (Percent.encode isFragmentChar)⟩

def isControl (c : Char) : Bool := c.toNat < 0x20 || c.toNat == 0x7F

def parse (s : String) : Except UrlError Url :=
  if maxLength < s.length then .error .tooLong
  else
    match s.toList.findIdx? isControl with
    | some i => .error (.controlCharacter ((s.toList[i]?).getD ' ') i)
    | none => ofWritten (.ofText s)

def bracketed (host : String) : String :=
  if host.toList.contains ':' then "[" ++ host ++ "]" else host

def authority (u : Url) : String :=
  (if u.user.isEmpty then "" else u.user ++ "@") ++ bracketed u.host ++
    u.service.elim "" fun n => ":" ++ toString n

def text (u : Url) : String :=
  (if u.scheme.isEmpty then "" else u.scheme ++ ":") ++
    (if u.authority.isEmpty then "" else "//" ++ u.authority) ++ u.path ++
    (u.query.elim "" fun q => "?" ++ q) ++ u.fragment.elim "" fun f => "#" ++ f

def written (u : Url) : Written :=
  ⟨u.scheme, u.user, bracketed u.host, u.service.elim "" toString, u.path, u.query, u.fragment⟩

def isAbsolute (u : Url) : Bool := !u.scheme.isEmpty && !u.host.isEmpty

def rebuild (u : Url) (replace : Written → Written) : Except UrlError Url := do
  let w := replace u.written
  let check (part text : String) : Except UrlError Unit :=
    if maxLength < text.length then .error (.partTooLong part) else .ok ()
  check "scheme" w.scheme
  check "authority" u.authority
  check "path" w.path
  check "query" (w.query.getD "")
  check "fragment" (w.fragment.getD "")
  ofWritten w

/-- The address to which a request goes. Of a relative address, path and query count; the path
starts at the root of the base. -/
def target (u base : Url) : Except UrlError Url :=
  if u.isAbsolute then .ok u
  else
    let path := "/" ++ String.ofList (u.path.toList.dropWhile (· == '/'))
    rebuild { base with path, query := u.query } id

def withQuery (u : Url) (query : String) : Except UrlError Url :=
  u.rebuild ({ · with query := some query })

def withHost (u : Url) (host : String) : Except UrlError Url :=
  u.rebuild ({ · with host := bracketed host })

end Url

end QueryGate
