import OfflineAgent.Agent.Fallback
import OfflineAgent.Agent.Jobs
import OfflineAgent.Agent.Strategies

/-!
The agent: what it does on installation and activation, and how it answers a request. It answers
requests only while it is active.
-/

namespace OfflineAgent

/-- How the loading of the manifest went, in the order of the manifest. -/
structure Report where
  cached : List String
  failed : List (String × Precache.Failure)
deriving DecidableEq, Repr

namespace Report

def empty : Report := ⟨[], []⟩

def add (report : Report) (path : String) : Except Precache.Failure Unit → Report
  | .ok () => { report with cached := report.cached ++ [path] }
  | .error failure => { report with failed := report.failed ++ [(path, failure)] }

def json (report : Report) : Json.Value :=
  .object [
    ("cached", .strings report.cached),
    ("failed", .array (report.failed.map fun (path, failure) =>
      .object [("path", .string path), ("reason", .string failure.reason)]))]

end Report

inductive Verdict where
  | passThrough
  | respond (served : Served)
deriving DecidableEq

/-- An agent; its number finds the state that its work shares. -/
structure Agent where
  number : Nat
  settings : Settings
  origin : Url
deriving DecidableEq

namespace Agent

def step (agent : Agent) (step : Lifecycle.Step) : Work step.Answer :=
  .op (.lifecycle agent.number step)

def stores (agent : Agent) : StorePair :=
  ⟨agent.settings.staticStore, agent.settings.dynamicStore⟩

/-- Starts loading the paths of the manifest, all at once. -/
def startPrecache (agent : Agent) : List String → Work (List (String × Except Url.Fault Ticket))
  | [] => return []
  | path :: rest => do
    let started ← match agent.origin.join path with
      | .error fault => pure (.error fault)
      | .ok url => do pure (.ok (← .start (.precache agent.stores.static (.get url))))
    return (path, started) :: (← agent.startPrecache rest)

def collect (report : Report) : List (String × Except Url.Fault Ticket) → Work Report
  | [] => return report
  | (path, .error fault) :: rest => collect (report.add path (.error (.invalidUrl fault))) rest
  | (path, .ok ticket) :: rest => do
    collect (report.add path (← .await .precache ticket)) rest

def precache (agent : Agent) : Work Report := do
  let _ ← Stores.openStore agent.stores.static
  collect .empty (← agent.startPrecache agent.settings.precache)

/-- Clears away the stores of other versions and only then begins to answer requests. Gives the
deleted stores, or none if the agent was not waiting. -/
def activate (agent : Agent) : Work (Option (List String)) := do
  if ← agent.step (.advance .waiting .activating) then
    let deleted ← match ← Stores.reconcile agent.settings.whitelist with
      | .ok deleted => pure deleted
      | .error _ => pure []
    let _ ← agent.step (.advance .activating .active)
    return some deleted
  else return none

/-- Loads the manifest once, then waits, or activates if that was asked for. -/
def install (agent : Agent) : Work Report := do
  if ← agent.step .claimInstall then return .empty
  else if (← agent.step .read) ≠ .installing then return .empty
  else
    let report ← agent.precache
    if ← agent.step (.advance .installing .waiting) then
      if ← agent.step .skipRequested then
        let _ ← agent.activate
    return report

/-- Asks for activation without waiting; while installing it takes effect afterwards. -/
def skipWaiting (agent : Agent) : Work Unit := do
  agent.step .requestSkip
  if (← agent.step .read) = .waiting then
    let _ ← agent.activate

def supersede (agent : Agent) : Work Unit :=
  agent.step .supersede

def handle (agent : Agent) (request : Request) : Work Verdict := do
  if (← agent.step .read) ≠ .active then return .passThrough
  else
    match RequestClass.ofRequest? agent.settings request with
    | none => return .passThrough
    | some kind =>
      match ← kind.strategy.run agent.stores request with
      | .ok served => return .respond served
      | .error _ => return .respond (← Fallback.resolve agent.settings.offlinePage request kind)

/-- A background sync loads the manifest anew; other tags are none of this agent's. -/
def sync (agent : Agent) (tag : String) : Work (Option Report) := do
  if tag = agent.settings.syncTag then return some (← agent.precache) else return none

end Agent

end OfflineAgent
