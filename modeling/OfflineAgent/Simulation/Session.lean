import OfflineAgent.Server.Router
import OfflineAgent.Simulation.World

/-!
A session: actions one after the other, each started as work of its own. An action whose work has to
wait answers later.
-/

namespace OfflineAgent.Simulation

inductive Reply where
  | ok
  | flag (value : Bool)
  | names (list : List String)
  | deleted (list : Option (List String))
  | entry (entry : Option Store.Entry)
  | served (served : Served)
  | passThrough
  | report (report : Option Report)
  | state (state : Lifecycle.State) (version : String)
  | version (reply : Option VersionReply)
  | notification (notification : Notification)
  | answer (answer : Server.Answer)
  | storageFailure (failure : Store.Failure)
  | strategyFailure (failure : Strategy.Failure)

/-- Actions that are work, which may have to wait. -/
inductive Activity where
  | openStore (name : String)
  | get (store : String) (key : Store.Key)
  | matchAny (key : Store.Key)
  | put (store : String) (key : Store.Key) (response : Response)
  | keep (store : String) (key : Store.Key) (response : Response)
  | names
  | delete (name : String)
  | reconcile (whitelist : List String)
  | strategy (order : Strategy) (stores : StorePair) (request : Request)
  | fallback (page : String) (request : Request) (kind : RequestClass)
  | install (agent : Agent)
  | precache (agent : Agent)
  | activate (agent : Agent)
  | skipWaiting (agent : Agent)
  | supersede (agent : Agent)
  | state (agent : Agent)
  | message (agent : Agent) (sent : ControlMessage) (wantsReply : Bool)
  | sync (agent : Agent) (tag : String)
  | push (agent : Agent) (payload : String)
  | fetch (agent : Agent) (request : Request)
  | serve (agent : Agent) (request : Server.Incoming)

namespace Activity

def reply {α : Type} (f : α → Reply) : Except Store.Failure α → Reply
  | .ok a => f a
  | .error failure => .storageFailure failure

def work : Activity → Work Reply
  | openStore name => do return reply (fun _ => .ok) (← Stores.openStore name)
  | get store key => do return reply .entry (← Stores.get store key)
  | matchAny key => do return reply .entry (← Stores.matchAny key)
  | put store key response => do return reply .flag (← Stores.put store key response)
  | keep store key response => do
    Stores.keep store key response
    return .ok
  | names => do return reply .names (← Stores.names)
  | delete name => do return reply .flag (← Stores.delete name)
  | reconcile whitelist => do return reply .names (← Stores.reconcile whitelist)
  | strategy order stores request => do
    match ← order.run stores request with
    | .ok served => return .served served
    | .error failure => return .strategyFailure failure
  | fallback page request kind => do return .served (← Fallback.resolve page request kind)
  | install agent => do return .report (some (← agent.install))
  | precache agent => do return .report (some (← agent.precache))
  | activate agent => do return .deleted (← agent.activate)
  | skipWaiting agent => do
    agent.skipWaiting
    return .ok
  | supersede agent => do
    agent.supersede
    return .ok
  | state agent => do return .state (← agent.step .read) agent.settings.versionId
  | message agent sent wantsReply => do
    let answer ← agent.control sent
    return if wantsReply then .version answer else .ok
  | sync agent tag => do return .report (← agent.sync tag)
  | push agent payload => return .notification (agent.push payload)
  | fetch agent request => do
    match ← agent.handle request with
    | .respond served => return .served served
    | .passThrough => return .passThrough
  | serve agent request => do return .answer (← Server.answer agent request)

end Activity

namespace World

variable {ρ : Type}

def subscribe (world : World ρ) (agent : Nat) : Nat × World ρ :=
  (world.watchers.length,
    { world with watchers := world.watchers ++ [⟨agent, (world.cell agent).changes⟩] })

/-- Whether a watcher has news, and the state it sees; it has seen them then. -/
def look? (world : World ρ) (watcher : Nat) : Option ((Bool × Lifecycle.State) × World ρ) :=
  (world.watchers[watcher]?).map fun w =>
    let cell := world.cell w.agent
    ((w.hasNews cell, cell.state),
      { world with watchers := world.watchers.set watcher (w.look cell) })

def setOutcomes (world : World ρ) (url : String) (outcomes : List Outcome) : World ρ :=
  { world with network := world.network.set url outcomes }

def gate (world : World ρ) (url : String) : World ρ :=
  if world.gates.any (·.url = url) then world
  else { world with gates := world.gates ++ [⟨url, 0⟩] }

def release (world : World ρ) (url : String) (count : Nat) : World ρ :=
  let gates := world.gates.map fun g : Gate =>
    if g.url = url then { g with permits := g.permits + count } else g
  { world with gates }.releaseFetches.settle

def setFaults (world : World ρ) (faults : List Fault) : World ρ :=
  { world with faults }

/-- Calls of a kind wait from now on, and all calls behind them. -/
def gateCalls (world : World ρ) (kind : Store.Call.Kind) : World ρ :=
  { world with gatedCalls := kind :: world.gatedCalls }

def releaseCalls (world : World ρ) (count : Nat) : World ρ :=
  { world with callPermits := world.callPermits + count }.settle

/-- Writes a row past the calls, and lists its store or leaves it unlisted. -/
def writeRow (world : World ρ) (row : Store.Row) (listed : Bool) : World ρ :=
  let tables := if listed then world.tables.openStore row.store else world.tables
  { world with tables := tables.writeRow row }

def dump (world : World ρ) : List (String × List (Except Store.Failure Store.Entry)) :=
  let keys := world.written.mergeSort fun a b => decide (a.url ≤ b.url)
  world.tables.names.map fun store =>
    (store, keys.filterMap fun key =>
      match world.tables.get store key with
      | .ok none => none
      | .ok (some entry) => some (.ok entry)
      | .error failure => some (.error failure))

def clearEvents (world : World ρ) : World ρ :=
  { world with requests := [], finished := [] }

end World

end OfflineAgent.Simulation
