import OfflineAgent.Agent.Basic

/-!
Messages from the application to the agent, and notifications from the agent to the user.
-/

namespace OfflineAgent

inductive ControlMessage where
  | skipWaiting
  | getVersion
  | unknown
deriving DecidableEq, Repr

namespace ControlMessage

def name : ControlMessage → String
  | skipWaiting => "skip_waiting"
  | getVersion => "get_version"
  | unknown => "unknown"

def ofName? (name : String) : Option ControlMessage :=
  [skipWaiting, getVersion, unknown].find? (·.name = name)

def ofType (type : String) : ControlMessage :=
  if type = "SKIP_WAITING" then skipWaiting
  else if type = "GET_VERSION" then getVersion
  else unknown

/-- An object with exactly one member `type`, a string, or a list of exactly one string. -/
def ofJson? : Json.Value → Option ControlMessage
  | .object members =>
    match members.filter (·.1 = "type") with
    | [(_, .string type)] => some (ofType type)
    | _ => none
  | .array [.string type] => some (ofType type)
  | _ => none

def parse? (body : ByteArray) : Option ControlMessage :=
  match Json.Value.parse body.toList with
  | .ok value => ofJson? value
  | .error _ => none

end ControlMessage

structure VersionReply where
  version : String
deriving DecidableEq, Repr

def VersionReply.json (reply : VersionReply) : Json.Value :=
  .object [("type", .string "VERSION"), ("version", .string reply.version)]

structure Notification where
  title : String
  body : String
deriving DecidableEq, Repr

def Notification.json (notification : Notification) : Json.Value :=
  .object [("title", .string notification.title), ("body", .string notification.body)]

namespace Agent

def control (agent : Agent) : ControlMessage → Work (Option VersionReply)
  | .skipWaiting => do
    agent.skipWaiting
    return none
  | .getVersion => return some ⟨agent.settings.versionId⟩
  | .unknown => return none

/-- What is shown for a push; an empty one has a text of its own. -/
def push (agent : Agent) (payload : String) : Notification :=
  let text := Text.trim payload
  ⟨agent.settings.appName, if text.isEmpty then "New content is available" else text⟩

end Agent

end OfflineAgent
