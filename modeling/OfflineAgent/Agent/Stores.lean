import OfflineAgent.Agent.Work

/-!
The stores as the work of an agent uses them: only whole responses to GET are written, and clearing
away stale stores goes on when one of them cannot be deleted.
-/

namespace OfflineAgent.Stores

def openStore (name : String) : Work (Except Store.Failure Unit) :=
  .storage (.openStore name)

def get (store : String) (key : Store.Key) : Work (Except Store.Failure (Option Store.Entry)) :=
  .storage (.get store key)

def matchAny (key : Store.Key) : Work (Except Store.Failure (Option Store.Entry)) :=
  .storage (.matchAny key)

def names : Work (Except Store.Failure (List String)) :=
  .storage .names

def delete (name : String) : Work (Except Store.Failure Bool) :=
  .storage (.delete name)

/-- Writes a response, and answers whether it could be written at all: a key or a response that is
not to be stored leaves the stores alone. -/
def put (store : String) (key : Store.Key) (response : Response) :
    Work (Except Store.Failure Bool) := do
  if key.isStorable && response.isComplete then
    match ← .storage (.put store key response) with
    | .ok () => return .ok true
    | .error failure => return .error failure
  else return .ok false

def keep (store : String) (key : Store.Key) (response : Response) : Work Unit := do
  let _ ← put store key response

/-- Reads an entry, from one store or from any. A read that fails counts as a miss. -/
def lookup (store : Option String) (key : Store.Key) : Work (Option Store.Entry) := do
  let answer ← match store with
    | some name => get name key
    | none => matchAny key
  match answer with
  | .ok entry => return entry
  | .error _ => return none

/-- Deletes those of the names that are not on the whitelist, and gives the ones deleted. -/
def deleteStale (whitelist : List String) : List String → Work (List String)
  | [] => return []
  | name :: rest => do
    if whitelist.contains name then deleteStale whitelist rest
    else
      match ← delete name with
      | .ok _ => return name :: (← deleteStale whitelist rest)
      | .error _ => deleteStale whitelist rest

def reconcile (whitelist : List String) : Work (Except Store.Failure (List String)) := do
  match ← names with
  | .ok found => return .ok (← deleteStale whitelist found)
  | .error failure => return .error failure

end OfflineAgent.Stores
