import OfflineAgent.Agent.Basic
import OfflineAgent.Cli.Arguments
import OfflineAgent.Cli.Failure
import OfflineAgent.Http.Client
import OfflineAgent.Http.Status
import OfflineAgent.Machine.SocketAddress

/-!
What the commands do and print. Most of them are work of an agent.
-/

namespace OfflineAgent.Cli

abbrev Printed := Except Failure String

def textLines (lines : List String) : String :=
  String.join (lines.map (· ++ "\n"))

def installTask (agent : Agent) : Work Printed := do
  let report ← agent.precache
  return .ok (textLines [report.json.pretty])

def pruneTask (agent : Agent) : Work Printed := do
  match ← Stores.reconcile agent.settings.whitelist with
  | .error failure => return .error (.storage failure)
  | .ok [] => return .ok (textLines ["No stale stores"])
  | .ok deleted => return .ok (textLines (deleted.map ("deleted " ++ ·)))

def storesTask (agent : Agent) : Work Printed := do
  match ← Stores.names with
  | .error failure => return .error (.storage failure)
  | .ok names =>
    let line := fun name =>
      (if agent.settings.whitelist.contains name then "current  " else "stale    ") ++ name
    return .ok (textLines (names.map line))

/-- A target is a URL, or else a path that is read relative to the origin. -/
def targetUrl (origin : Url) (text : String) : Except Url.Fault Url :=
  match Url.parse text with
  | .ok url => .ok url
  | .error _ => origin.join text

/-- A response as it is printed: a line about it, when it was stored, and its body if that is
text. -/
def servedLines (served : Served) : List String :=
  let response := served.response
  let type := (response.header? "content-type").getD "-"
  let about := " ".intercalate
    [toString response.status.toNat, served.source.name, type,
      "(" ++ toString response.body.size ++ " bytes)"]
  [about] ++ (served.cachedAt.map fun moment => "cached at " ++ moment.shown).toList ++
    (Utf8.text? response.body).toList

def fetchTask (agent : Agent) (target : String) (accept : Option String) : Work Printed := do
  let _ ← agent.install
  agent.skipWaiting
  match targetUrl agent.origin target with
  | .error fault => return .error (.target target fault)
  | .ok url =>
    match ← agent.handle { Request.get url with accept } with
    | .respond served => return .ok (textLines (servedLines served))
    | .passThrough => return .ok (textLines ["passed through (not intercepted)"])

/-- Installs, then serves until it is interrupted; `refusal?` is the reason for which the machine
would not listen on an address. -/
def serveTask (refusal? : Machine.SocketAddress → Option String) (agent : Agent) :
    Work Printed := do
  match Machine.SocketAddress.parse? agent.settings.listen with
  | none => return .error (.listenAddress agent.settings.listen)
  | some address =>
    let _ ← agent.install
    match refusal? address with
    | some reason => return .error (.listen address.text reason)
    | none => return .ok ""

/-! Messages to a running agent -/

def endpoint (listen : String) : String :=
  "http://" ++ listen ++ "/__stowaway/message"

def messageRequest (url : Url) (signal : Signal) : Request :=
  { Request.new "POST" url with
    headers := [("content-type", "application/json")]
    body := (Json.Value.object [("type", .string signal.type)]).compact.toUTF8 }

/-- The reply, or its status if it is empty. -/
def replyText (response : Response) : String :=
  let text := Utf8.lossyText response.body
  textLines [if text.isEmpty then Http.statusText response.status.toNat else text]

def sendMessage (peer : Client.Peer) (listen : String) (signal : Signal) : Printed :=
  let place := endpoint listen
  match Url.parse place with
  | .error _ => .error (.unreached place "builder error")
  | .ok url =>
    match (Client.fetch peer (messageRequest url signal)).outcome with
    | .ok response => .ok (replyText response)
    | .error (.noResponse _ reason) => .error (.unreached place reason)
    | .error _ => .error .brokenReply

end OfflineAgent.Cli
