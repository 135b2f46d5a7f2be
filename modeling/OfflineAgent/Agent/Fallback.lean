import OfflineAgent.Agent.Classify
import OfflineAgent.Agent.Stores

/-!
The answer to a request when neither network nor strategy had one. It never fails.
-/

namespace OfflineAgent.Fallback

def offlineBody (url : Url) : Json.Value :=
  .object [
    ("error", .string "offline"),
    ("message", .string ("Network unavailable and no cached copy of " ++ url.text)),
    ("offline", .bool true)]

def offlineResponse (url : Url) : Response :=
  (Response.new 503 (offlineBody url).compact).withHeader "content-type" "application/json"

/-- The offline page of a navigation; its path is read relative to the request. -/
def offlinePage (page : String) (request : Request) (kind : RequestClass) :
    Work (Option Store.Entry) := do
  match kind, request.url.join page with
  | .navigation, .ok url => Stores.lookup none (.get url)
  | _, _ => return none

/-- An entry for the very request, else for a navigation the offline page, else a 503. -/
def resolve (page : String) (request : Request) (kind : RequestClass) : Work Served := do
  match ← Stores.lookup none (.ofRequest request) with
  | some entry => return .ofCache entry
  | none =>
    match ← offlinePage page request kind with
    | some entry => return .ofCache entry
    | none => return .ofFallback (offlineResponse request.url)

end OfflineAgent.Fallback
