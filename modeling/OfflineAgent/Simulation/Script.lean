import OfflineAgent.Http.Fetch
import OfflineAgent.Store.Call

/-!
Surroundings that follow a script: a network with an outcome for each URL, and disks that fail.
Requests and calls on the stores may be held back until they are let through.
-/

namespace OfflineAgent.Simulation

inductive Outcome where
  | respond (response : Response)
  | fail (reason : String)
deriving DecidableEq

/-- The outcomes of each URL, one after the other; the last one repeats. -/
structure Network where
  outcomes : List (String × List Outcome)
deriving DecidableEq

namespace Network

def set (network : Network) (url : String) (outcomes : List Outcome) : Network :=
  ⟨network.outcomes.filter (·.1 ≠ url) ++ [(url, outcomes)]⟩

def rest : List Outcome → List Outcome
  | [] => []
  | [last] => [last]
  | _ :: next :: more => next :: more

def find (network : Network) (url : String) : List Outcome :=
  ((network.outcomes.find? (·.1 = url)).map (·.2)).getD []

/-- What comes of a request. A URL without outcomes cannot be reached. -/
def fetch (network : Network) (url : Url) : Except FetchFailure Response × Network :=
  match network.find url.text with
  | [] => (.error (.noResponse url "network unreachable"), network)
  | outcome :: more =>
    let network := network.set url.text (rest (outcome :: more))
    match outcome with
    | .respond response => (.ok response, network)
    | .fail reason => (.error (.noResponse url reason), network)

end Network

structure Fault where
  kind : Store.Call.Kind
  store : Option String
  failure : Store.Failure
deriving DecidableEq, Repr

/-- The failure that faults bring to a call; one of its store comes before one of all. -/
def failureOf? (faults : List Fault) (call : Store.Call) : Option Store.Failure :=
  match faults.find? fun f => f.kind = call.kind ∧ f.store.isSome ∧ f.store = call.store? with
  | some fault => some fault.failure
  | none => (faults.find? fun f => f.kind = call.kind ∧ f.store.isNone).map (·.failure)

/-- Requests of a URL that wait, and how many more may pass. -/
structure Gate where
  url : String
  permits : Nat
deriving DecidableEq, Repr

end OfflineAgent.Simulation
