import OfflineAgent.Agent.Classify
import OfflineAgent.Agent.Stores

/-!
Answering a request from the network and the stores, in one of three orders.
-/

namespace OfflineAgent

/-- The two stores that an agent writes to. -/
structure StorePair where
  static : String
  dynamic : String
deriving DecidableEq, Repr

namespace Strategy

inductive Failure where
  | nothingCached (url : String) (failure : FetchFailure)
  | network (failure : FetchFailure)
  | missed (url : String) (failure : FetchFailure)
deriving DecidableEq, Repr

def Failure.message : Failure → String
  | nothingCached url failure =>
    "Network failed for " ++ url ++ " and nothing is cached: " ++ failure.message
  | network failure => failure.message
  | missed url failure => "Cache miss for " ++ url ++ " and network failed: " ++ failure.message

/-- The network's response, which is kept, or else whatever is stored. -/
def runNetworkFirst (stores : StorePair) (request : Request) : Work (Except Failure Served) := do
  let key := Store.Key.ofRequest request
  match ← .fetch request with
  | .ok response =>
    Stores.keep stores.dynamic key response
    return .ok (.ofNetwork response)
  | .error failure =>
    match ← Stores.lookup none key with
    | some entry => return .ok (.ofCache entry)
    | none => return .error (.nothingCached key.url failure)

/-- What the static store holds, or else the network's response, which is kept. -/
def runCacheFirst (stores : StorePair) (request : Request) : Work (Except Failure Served) := do
  let key := Store.Key.ofRequest request
  match ← Stores.lookup (some stores.static) key with
  | some entry => return .ok (.ofCache entry)
  | none =>
    match ← .fetch request with
    | .ok response =>
      Stores.keep stores.static key response
      return .ok (.ofNetwork response)
    | .error failure => return .error (.network failure)

/-- Whatever is stored, and in the background the network's response for the next time. If nothing
is stored, that response as soon as it is there. -/
def runStaleWhileRevalidate (stores : StorePair) (request : Request) :
    Work (Except Failure Served) := do
  let key := Store.Key.ofRequest request
  let cached ← Stores.lookup none key
  let ticket ← .start (.revalidate stores.dynamic request)
  match cached with
  | some entry => return .ok (.ofCache entry)
  | none =>
    match ← .await .revalidation ticket with
    | .ok response => return .ok (.ofNetwork response)
    | .error failure => return .error (.missed key.url failure)

def run (stores : StorePair) (request : Request) : Strategy → Work (Except Failure Served)
  | networkFirst => runNetworkFirst stores request
  | cacheFirst => runCacheFirst stores request
  | staleWhileRevalidate => runStaleWhileRevalidate stores request

end Strategy

end OfflineAgent
