import OfflineAgent.Agent.Stores

/-!
What the background jobs do.
-/

namespace OfflineAgent

def Precache.entry (store : String) (request : Request) : Work (Except Precache.Failure Unit) := do
  match ← .fetch request with
  | .error failure => return .error (.network failure)
  | .ok response =>
    if response.isComplete then
      match ← Stores.put store (.ofRequest request) response with
      | .ok _ => return .ok ()
      | .error failure => return .error (.storage failure)
    else return .error (.status response.status)

/-- A revalidation reports the response before it keeps it, so that nobody waits for the disk. -/
def Job.work (ticket : Ticket) : Job → Work Unit
  | revalidate store request => do
    match ← .fetch request with
    | .ok response =>
      .report .revalidation ticket (.ok response)
      Stores.keep store (.ofRequest request) response
    | .error failure => .report .revalidation ticket (.error failure)
  | precache store request => do
    .report .precache ticket (← Precache.entry store request)

end OfflineAgent
