import OfflineAgent.Agent.Basic
import OfflineAgent.Server.Basic

/-!
Requests of the client application: each is read against the agent's origin and answered by the
agent or, if it passes the request through, by the network.
-/

namespace OfflineAgent.Server

def sourceHeader : String := "x-stowaway-source"

/-- The longest body of a request whose method is written `GET`. All others may have a body of any
length. -/
def maxInterceptedBody : Nat := 16 * 1024 * 1024

/-- The request as the agent sees it. Only path and query come from the target, so no request can
choose another host. None if the body is too long. -/
def Incoming.toRequest? (origin : Url) (request : Incoming) : Option Request :=
  if request.method = "GET" ∧ maxInterceptedBody < request.body.size then none
  else
    let url := (origin.setPath request.target.path).setQuery request.target.query
    some {
      Request.new request.method url with
      accept := request.headerText? "accept"
      headers := Http.received request.headers
      body := request.body }

/-- The response as it is sent. A source takes the place of all headers of its name. -/
def Answer.ofResponse (response : Response) (source : Option Source) : Answer :=
  let status := response.status.toNat
  let headers := Http.forwarded response.headers
  let headers := match source with
    | some source => headers.filter (·.1 ≠ sourceHeader) ++ [(sourceHeader, source.name)]
    | none => headers
  .new (if 100 ≤ status ∧ status ≤ 999 then status else 502) headers response.body

def intercept (agent : Agent) (request : Incoming) : Work Answer := do
  match request.toRequest? agent.origin with
  | none => return .text 400 "Failed to read request body: length limit exceeded"
  | some request =>
    match ← agent.handle request with
    | .respond served => return .ofResponse served.response (some served.source)
    | .passThrough =>
      match ← .fetch request with
      | .ok response => return .ofResponse response none
      | .error failure => return .text 502 failure.message

end OfflineAgent.Server
