import OfflineAgent.Agent.Lifecycle
import OfflineAgent.Http.Fetch
import OfflineAgent.Store.Call
import OfflineAgent.Url.Fault

/-!
The work of an agent as data. Work is done or asks its surroundings for one thing and goes on with
the answer, so between any two of its steps other work may run. What is asked is atomic: a call on
the stores, a request on the network, a step on the state of an agent, or a dealing with background
jobs.
-/

namespace OfflineAgent

namespace Precache

inductive Failure where
  | invalidUrl (fault : Url.Fault)
  | network (failure : FetchFailure)
  | status (status : UInt16)
  | storage (failure : Store.Failure)
deriving DecidableEq, Repr

def Failure.reason : Failure → String
  | invalidUrl _ => "invalid_url"
  | network _ => "network"
  | status _ => "http_status"
  | storage _ => "storage"

end Precache

/-- Work in the background, on its own once it is started. -/
inductive Job where
  /-- Fetches a resource anew and keeps the response. -/
  | revalidate (store : String) (request : Request)
  /-- Fetches a resource of the manifest and stores it. -/
  | precache (store : String) (request : Request)
deriving DecidableEq

/-- What kind of result is passed on from a job to whoever waits for it. -/
inductive Channel where
  | revalidation
  | precache
deriving DecidableEq, Repr

abbrev Channel.Outcome : Channel → Type
  | revalidation => Except FetchFailure Response
  | precache => Except Precache.Failure Unit

abbrev Ticket := Nat

inductive Op where
  | storage (call : Store.Call)
  | fetch (request : Request)
  | lifecycle (agent : Nat) (step : Lifecycle.Step)
  | start (job : Job)
  | report (channel : Channel) (ticket : Ticket) (outcome : channel.Outcome)
  | await (channel : Channel) (ticket : Ticket)

abbrev Op.Answer : Op → Type
  | storage call => Except Store.Failure call.Answer
  | fetch _ => Except FetchFailure Response
  | lifecycle _ step => step.Answer
  | start _ => Ticket
  | report _ _ _ => Unit
  | await channel _ => channel.Outcome

inductive Work (α : Type) where
  | done (value : α)
  | ask (op : Op) (next : op.Answer → Work α)

namespace Work

def bind {α β : Type} : Work α → (α → Work β) → Work β
  | done value, f => f value
  | ask op next, f => ask op fun answer => (next answer).bind f

instance : Monad Work where
  pure := done
  bind := bind

def op (op : Op) : Work op.Answer :=
  ask op done

def storage (call : Store.Call) : Work (Except Store.Failure call.Answer) :=
  op (.storage call)

def fetch (request : Request) : Work (Except FetchFailure Response) :=
  op (.fetch request)

def start (job : Job) : Work Ticket :=
  op (.start job)

def report (channel : Channel) (ticket : Ticket) (outcome : channel.Outcome) : Work Unit :=
  op (.report channel ticket outcome)

def await (channel : Channel) (ticket : Ticket) : Work channel.Outcome :=
  op (.await channel ticket)

end Work

end OfflineAgent
