import OfflineAgent.Http.Fetch
import OfflineAgent.Http.RequestTarget
import OfflineAgent.Http.Token
import OfflineAgent.Text.Base64
import OfflineAgent.Url.Parser

/-!
The client: how a request goes on the wire, and what is made of what comes back. Main function:
`Client.fetch`, against a peer that may answer in any way.
-/

namespace OfflineAgent.Client

/-- A request on the wire. What belongs to the connection is not part of it. Credentials are in a
header and not in the URL. -/
structure Sent where
  method : String
  url : Url
  headers : Headers
  body : ByteArray
deriving DecidableEq

/-- What comes back for a request, as the connection reads it. A head that it cannot read, or that
is longer than it takes, is no response. -/
inductive Reception where
  | nothing
  | truncated (status : UInt16) (headers : Http.RawHeaders)
  | whole (status : UInt16) (headers : Http.RawHeaders) (body : ByteArray)
deriving DecidableEq

/-- A peer answers a request by what it got before; the last request comes first. -/
abbrev Peer := List Sent → Reception

/-- What a fetch comes to, and the requests it put on the wire, the last one first. -/
structure Exchange where
  outcome : Except FetchFailure Response
  sent : List Sent

/-! Requests -/

/-- The headers of a request. What the client takes is said in them already or is said here. -/
def headersFor (request : Request) : Headers :=
  let own := Http.forwarded request.headers
  match request.accept with
  | some accept =>
    if own.any (·.1 = "accept") || !Http.isHeaderValue accept then own
    else own ++ [("accept", accept)]
  | none => own

def withoutCredentials (url : Url) : Url :=
  { url with username := "", password := none }

def authorization (url : Url) : Headers :=
  let plain := fun text : String => Utf8.text? ⟨(Percent.decode text.toUTF8.toList).toArray⟩
  match plain url.username with
  | some name =>
    if name.isEmpty && url.password.isNone then []
    else
      let word := (url.password.bind plain).getD ""
      let digits := Base64.encode (name ++ ":" ++ word).toUTF8.toList
      [("authorization", "Basic " ++ String.ofList digits)]
  | none => []

/-- A request brings its own credentials or has those of its URL. -/
def Sent.ofRequest (request : Request) : Sent :=
  let own := headersFor request
  { method := request.method
    url := withoutCredentials request.url
    headers :=
      if own.any (·.1 = "authorization") then own else authorization request.url ++ own
    body := request.body }

/-! Redirects -/

def maxRedirects : Nat := 10

def statusDropsBody (status : UInt16) : Bool :=
  status = 301 || status = 302 || status = 303

def statusRedirects (status : UInt16) : Bool :=
  statusDropsBody status || status = 307 || status = 308

/-- Where a response sends the client, if it sends it anywhere. -/
def target? (url : Url) (status : UInt16) (headers : Http.RawHeaders) : Option Url := do
  if !statusRedirects status then none
  let (_, value) ← headers.find? (·.1 = "location")
  match Utf8.decode value with
  | .ok text => (url.join (String.ofList text)).toOption
  | .error _ => none

def isWeb (url : Url) : Bool :=
  url.scheme = "http" || url.scheme = "https"

/-- Only a web server is asked, and only under a URL that can stand in a request line. -/
def isSendable (url : Url) : Bool :=
  isWeb url && (Http.RequestTarget.parse url.text).isSome

def sameHost (a b : Url) : Bool :=
  let port := fun url : Url => (url.port <|> Url.defaultPort? url.scheme)
  decide (a.host = b.host) && decide (port a = port b)

/-- Headers that only the host they were meant for may see. -/
def secretNames : List String :=
  ["authorization", "cookie", "cookie2", "proxy-authorization", "www-authenticate"]

def bodyNames : List String :=
  ["transfer-encoding", "content-encoding", "content-type", "content-length"]

def dropNames (names : List String) (headers : Headers) : Headers :=
  headers.filter fun header => !names.contains header.1

/-- A request names the page that led to it, but not where encryption ends. -/
def referrer (source target : Url) : Headers :=
  if source.scheme = "https" && target.scheme = "http" then []
  else [("referer", (withoutCredentials source).withoutFragment.text)]

/-- The request that follows a redirect. Only some redirects keep method and body. -/
def Sent.redirected (sent : Sent) (status : UInt16) (target : Url) : Sent :=
  let drops := statusDropsBody status
  let kept := if drops then dropNames bodyNames sent.headers else sent.headers
  let kept := match referrer sent.url target with
    | [] => kept
    | found => dropNames ["referer"] kept ++ found
  { method := if drops && sent.method != "HEAD" then "GET" else sent.method
    url := withoutCredentials target
    headers := if sameHost sent.url target then kept else dropNames secretNames kept
    body := if drops then .empty else sent.body }

/-! Fetching -/

def noResponse (request : Request) (kind : String) (url : Url) : FetchFailure :=
  .noResponse request.url (kind ++ " for url (" ++ url.text ++ ")")

inductive Reaction where
  | finish (outcome : Except FetchFailure Response)
  | follow (status : UInt16) (target : Url)

def react (request : Request) (sent : Sent) : Reception → Reaction
  | .nothing => .finish (.error (noResponse request "error sending request" sent.url))
  | .truncated status headers =>
    match target? sent.url status headers with
    | some target => .follow status target
    | none => .finish (.error (.truncated request.url))
  | .whole status headers body =>
    match target? sent.url status headers with
    | some target => .follow status target
    | none => .finish (.ok ⟨status, Http.received headers, body⟩)

/-- Sends a request and follows redirects, `fuel` of them at most; `past` are the requests
before. -/
def exchange (peer : Peer) (request : Request) (fuel : Nat) (past : List Sent) (sent : Sent) :
    Exchange :=
  let past := sent :: past
  match react request sent (peer past) with
  | .finish outcome => ⟨outcome, past⟩
  | .follow status target =>
    match fuel with
    | 0 => ⟨.error (noResponse request "error following redirect" sent.url), past⟩
    | fuel + 1 =>
      if isSendable target then exchange peer request fuel past (sent.redirected status target)
      else ⟨.error (noResponse request "builder error" target), past⟩

def fetch (peer : Peer) (request : Request) : Exchange :=
  let sent := Sent.ofRequest request
  if !Http.isToken request.method then ⟨.error (.invalidMethod request.method), []⟩
  else if !isSendable sent.url then ⟨.error (noResponse request "builder error" sent.url), []⟩
  else exchange peer request maxRedirects [] sent

def unreachable : Peer := fun _ => .nothing

end OfflineAgent.Client
