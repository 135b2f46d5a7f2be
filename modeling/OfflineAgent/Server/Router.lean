import OfflineAgent.Agent.Control
import OfflineAgent.Http.MediaType
import OfflineAgent.Server.Intercept
import OfflineAgent.Server.SyncRequest

/-!
What the server does with a request: its own endpoints under `/__stowaway/`, and interception for
all other paths.
-/

namespace OfflineAgent.Server

inductive Endpoint where
  | message
  | sync
  | push
  | state
deriving DecidableEq, Repr

/-- The endpoint of a path, which is compared as it is written. -/
def Endpoint.ofPath? (path : String) : Option Endpoint :=
  if path = "/__stowaway/message" then some .message
  else if path = "/__stowaway/sync" then some .sync
  else if path = "/__stowaway/push" then some .push
  else if path = "/__stowaway/state" then some .state
  else none

def maxEndpointBody : Nat := 2 * 1024 * 1024

def tooLong : Answer :=
  .text 413 "Failed to buffer the request body: length limit exceeded"

/-- A message that cannot be read is an unknown one. -/
def answerMessage (agent : Agent) (body : ByteArray) : Work Answer := do
  if maxEndpointBody < body.size then return tooLong
  else
    match ← agent.control ((ControlMessage.parse? body).getD .unknown) with
    | some reply => return .json reply.json
    | none => return .empty 202

def isJson (request : Incoming) : Bool :=
  match (request.headerText? "content-type").bind Http.MediaType.parse? with
  | some type => type.isJson
  | none => false

/-- A value of another shape is told apart from a text that is no JSON. -/
def refuse (body : List UInt8) (fault : SyncRequest.Fault) : Answer :=
  if fault.fault.cause.isUnfit then
    .text 422 ("Failed to deserialize the JSON body into the target type: " ++ fault.message body)
  else .text 400 ("Failed to parse the request body as JSON: " ++ fault.message body)

def answerSync (agent : Agent) (request : Incoming) : Work Answer := do
  if !isJson request then
    return .text 415 "Expected request with `Content-Type: application/json`"
  else if maxEndpointBody < request.body.size then return tooLong
  else
    let body := request.body.toList
    match SyncRequest.read body with
    | .error fault => return refuse body fault
    | .ok sync =>
      match ← agent.sync sync.tag with
      | some report => return .json report.json
      | none => return .empty 204

def notText (fault : Utf8.Fault) : String :=
  match fault.length with
  | some length =>
    "invalid utf-8 sequence of " ++ toString length ++ " bytes from index " ++ toString fault.offset
  | none => "incomplete utf-8 byte sequence from index " ++ toString fault.offset

def answerPush (agent : Agent) (body : ByteArray) : Answer :=
  if maxEndpointBody < body.size then tooLong
  else
    match Utf8.decode body.toList with
    | .ok payload => .json (agent.push (String.ofList payload)).json
    | .error fault => .text 400 ("Request body didn't contain valid UTF-8: " ++ notText fault)

def answerState (agent : Agent) : Work Answer := do
  let state ← agent.step .read
  return .json (.object [
    ("state", .string state.name), ("version", .string agent.settings.versionId)])

def wrongMethod (allowed : String) : Answer :=
  .new 405 [("allow", allowed)] .empty

def answer (agent : Agent) (request : Incoming) : Work Answer := do
  match Endpoint.ofPath? request.target.path with
  | none => intercept agent request
  | some .state =>
    if request.method = "GET" then answerState agent
    else if request.method = "HEAD" then return { ← answerState agent with body := .empty }
    else return wrongMethod "GET,HEAD"
  | some endpoint =>
    if request.method ≠ "POST" then return wrongMethod "POST"
    else
      match endpoint with
      | .message => answerMessage agent request.body
      | .sync => answerSync agent request
      | _ => return answerPush agent request.body

end OfflineAgent.Server
