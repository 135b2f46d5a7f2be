import OfflineAgent.Agent.Basic
import OfflineAgent.Simulation.Script

/-!
A world in which the work of agents runs, one piece at a time: what is ready runs first come first
served, and a call on the stores is performed only when nothing is ready. So a run depends on
nothing but the script.
-/

namespace OfflineAgent.Simulation

/-- Work ends with a result under its number; jobs in the background end with none. -/
abbrev Thread (ρ : Type) := Work (Option (Nat × ρ))

structure WaitingFetch (ρ : Type) where
  request : Request
  next : Except FetchFailure Response → Thread ρ

structure WaitingCall (ρ : Type) where
  call : Store.Call
  next : Except Store.Failure call.Answer → Thread ρ

structure WaitingOutcome (ρ : Type) where
  channel : Channel
  ticket : Ticket
  next : channel.Outcome → Thread ρ

structure Posted where
  channel : Channel
  ticket : Ticket
  outcome : channel.Outcome

structure World (ρ : Type) where
  now : Moment
  tables : Store.Tables
  agents : List Agent
  cells : List Lifecycle.Cell
  watchers : List Lifecycle.Watcher
  network : Network
  gates : List Gate
  faults : List Fault
  gatedCalls : List Store.Call.Kind
  callPermits : Nat
  /-- Keys that were written by a call. -/
  written : List Store.Key
  /-- Requests put on the network, in order. -/
  requests : List Request
  finished : List (Nat × ρ)
  ready : List (Thread ρ)
  fetches : List (WaitingFetch ρ)
  calls : List (WaitingCall ρ)
  awaiting : List (WaitingOutcome ρ)
  posted : List Posted
  nextTicket : Ticket

namespace World

variable {ρ : Type}

def new (now : Moment) (network : Network) : World ρ where
  now := now
  tables := .empty
  agents := []
  cells := []
  watchers := []
  network := network
  gates := []
  faults := []
  gatedCalls := []
  callPermits := 0
  written := []
  requests := []
  finished := []
  ready := []
  fetches := []
  calls := []
  awaiting := []
  posted := []
  nextTicket := 0

def cell (world : World ρ) (agent : Nat) : Lifecycle.Cell :=
  (world.cells[agent]?).getD (.new false)

def lifecycle (world : World ρ) (agent : Nat) (step : Lifecycle.Step) : step.Answer × World ρ :=
  let (answer, cell) := step.run (world.cell agent)
  (answer, { world with cells := world.cells.set agent cell })

def wake (world : World ρ) (thread : Thread ρ) : World ρ :=
  { world with ready := world.ready ++ [thread] }

def isPassable (world : World ρ) (url : String) : Bool :=
  match world.gates.find? (·.url = url) with
  | some gate => 0 < gate.permits
  | none => true

def passGate (world : World ρ) (url : String) : World ρ :=
  { world with
    gates := world.gates.map fun g =>
      if g.url = url then { g with permits := g.permits - 1 } else g }

def fetch (world : World ρ) (request : Request) : Except FetchFailure Response × World ρ :=
  let (outcome, network) := world.network.fetch request.url
  (outcome, { world.passGate request.url.text with network })

def Posted.outcome? (posted : Posted) (channel : Channel) (ticket : Ticket) :
    Option channel.Outcome :=
  if posted.ticket = ticket then
    match channel, posted with
    | .revalidation, ⟨.revalidation, _, outcome⟩ => some outcome
    | .precache, ⟨.precache, _, outcome⟩ => some outcome
    | _, _ => none
  else none

def deliver (world : World ρ) (posted : Posted) : World ρ :=
  let world := { world with posted := world.posted ++ [posted] }
  world.awaiting.foldl (fun world waiting =>
    match Posted.outcome? posted waiting.channel waiting.ticket with
    | some outcome => world.wake (waiting.next outcome)
    | none => { world with awaiting := world.awaiting ++ [waiting] }) { world with awaiting := [] }

/-- Runs a thread until it is done or has to wait. -/
def run (world : World ρ) : Thread ρ → World ρ
  | .done none => world
  | .done (some reply) => { world with finished := world.finished ++ [reply] }
  | .ask (.lifecycle agent step) next =>
    let (answer, world) := world.lifecycle agent step
    world.run (next answer)
  | .ask (.start job) next =>
    let ticket := world.nextTicket
    let thread : Work (Option (Nat × ρ)) := do
      job.work ticket
      return none
    let world := { world.wake thread with nextTicket := ticket + 1 }
    world.run (next ticket)
  | .ask (.report channel ticket outcome) next =>
    (world.deliver ⟨channel, ticket, outcome⟩).run (next ())
  | .ask (.await channel ticket) next =>
    match world.posted.findSome? (Posted.outcome? · channel ticket) with
    | some outcome => world.run (next outcome)
    | none => { world with awaiting := world.awaiting ++ [⟨channel, ticket, next⟩] }
  | .ask (.fetch request) next =>
    let world := { world with requests := world.requests ++ [request] }
    if world.isPassable request.url.text then
      let (outcome, world) := world.fetch request
      world.run (next outcome)
    else { world with fetches := world.fetches ++ [⟨request, next⟩] }
  | .ask (.storage call) next => { world with calls := world.calls ++ [⟨call, next⟩] }

/-- Performs a call on the stores, unless a fault prevents it. -/
def perform (world : World ρ) (call : Store.Call) : Except Store.Failure call.Answer × World ρ :=
  match failureOf? world.faults call with
  | some failure => (.error failure, world)
  | none =>
    let (answer, tables) := call.run world.now world.tables
    let written := match call with
      | .put _ key _ => if world.written.contains key then [] else [key]
      | _ => []
    (answer, { world with tables, written := world.written ++ written })

/-- Performs the first of the waiting calls, if it may pass; else nothing happens. -/
def performNext? (world : World ρ) : Option (World ρ) :=
  match world.calls with
  | [] => none
  | ⟨call, next⟩ :: rest =>
    let isGated := world.gatedCalls.contains call.kind
    if isGated && world.callPermits == 0 then none
    else
      let permits := if isGated then world.callPermits - 1 else world.callPermits
      let (answer, world) := { world with calls := rest, callPermits := permits }.perform call
      some (world.wake (next answer))

/-- One move: the next ready thread, or else the next call on the stores. -/
def move? (world : World ρ) : Option (World ρ) :=
  match world.ready with
  | thread :: rest => some ({ world with ready := rest }.run thread)
  | [] => world.performNext?

def settleWithin : Nat → World ρ → World ρ
  | 0, world => world
  | fuel + 1, world =>
    match world.move? with
    | some world => settleWithin fuel world
    | none => world

/-- More moves than any work takes that is started at once. -/
def maxMoves : Nat := 1000000

def settle (world : World ρ) : World ρ :=
  settleWithin maxMoves world

def start (world : World ρ) (number : Nat) (work : Work ρ) : World ρ :=
  let thread : Work (Option (Nat × ρ)) := do return some (number, ← work)
  (world.wake thread).settle

def addAgent (world : World ρ) (settings : Settings) :
    Except Settings.OriginFault (Nat × World ρ) := do
  let number := world.agents.length
  let origin ← settings.originUrl
  return (number, { world with
    agents := world.agents ++ [⟨number, settings, origin⟩]
    cells := world.cells ++ [.new settings.skipWaiting] })

/-- Lets waiting requests pass while there are permits, first come first served. -/
def releaseFetches (world : World ρ) : World ρ :=
  world.fetches.foldl (fun world waiting =>
    if world.isPassable waiting.request.url.text then
      let (outcome, world) := world.fetch waiting.request
      world.wake (waiting.next outcome)
    else { world with fetches := world.fetches ++ [waiting] }) { world with fetches := [] }

end World

end OfflineAgent.Simulation
